import AutoscalerOperator.Proofs.Json.Meaning
import AutoscalerOperator.Proofs.Managed.Drift
import AutoscalerOperator.Proofs.Managed.Scope

namespace AutoscalerOperator

open Kubernetes

/-- Whether labels are the same but for an entry under `sizeLimit`, where only the amount counts. -/
structure SelectAlike (left right : Option Labels) : Prop where
  plain : ∀ key, key ≠ "sizeLimit" → labelAt left key = labelAt right key
  measured : Option.Rel (fun text other => Quantity.SameAmount ⟨text⟩ ⟨other⟩)
    (labelAt left "sizeLimit") (labelAt right "sizeLimit")

theorem normal?_labels (labels : Option Labels) :
    (toJson labels).normal? {} = (toJson (labels.getD .empty)).normal? {} := by
  cases labels <;> rfl

theorem get?_map_toJson (entries : List (String × String)) (key : String) :
    Entries.get? key (entries.map fun (key, text) => (key, toJson text)) =
      (Entries.get? key entries).map Json.str := by
  induction entries with
  | nil => rfl
  | cons entry rest ih =>
    obtain ⟨other, text⟩ := entry
    by_cases here : other = key
    · simp only [List.map_cons, Entries.get?, here, if_pos, Option.map_some]
      rfl
    · simp only [List.map_cons, Entries.get?, here, if_false, ih]

theorem member_labels (labels : Option Labels) (key : String) :
    (Entries.get? key ((labels.getD .empty).entries.map fun (key, text) => (key, toJson text))).bind
        (Json.normal? (Json.Place.member {} key)) =
      ((labelAt labels key).map (Json.Place.member {} key).canonicalText).map Json.str := by
  rw [get?_map_toJson]
  cases labels with
  | none => rfl
  | some labels =>
    simp only [labelAt, Option.getD_some, Option.bind_some, SortedMap.get?]
    cases Entries.get? key labels.entries <;> rfl

theorem semanticEq_labels_iff (left right : Option Labels) :
    semanticEq left right = true ↔ ∀ key,
      (labelAt left key).map (Json.Place.member {} key).canonicalText =
        (labelAt right key).map (Json.Place.member {} key).canonicalText := by
  have strings : Function.Injective (Option.map Json.str) :=
    Option.map_injective fun _ _ => Json.str.inj
  rw [semanticEq_iff, normal?_labels left, normal?_labels right]
  refine Json.normal?_obj_iff.trans (forall_congr' fun key => ?_)
  rw [member_labels, member_labels, strings.eq_iff]

theorem canonicalText_of_ne {key : String} (other : key ≠ "sizeLimit") :
    (Json.Place.member {} key).canonicalText = id := by
  have plain : (Json.Place.member {} key).amount = false := by
    simp [Json.Place.member, Json.Place.amountFields, other]
  funext text
  exact Json.canonicalText_of_plain plain text

theorem canonicalText_sizeLimit_iff {text other : String} :
    (Json.Place.member {} "sizeLimit").canonicalText text =
      (Json.Place.member {} "sizeLimit").canonicalText other ↔
        Quantity.SameAmount ⟨text⟩ ⟨other⟩ :=
  Json.canonicalText_eq_iff (by decide)

theorem semanticEq_iff_selectAlike (left right : Option Labels) :
    semanticEq left right = true ↔ SelectAlike left right := by
  rw [semanticEq_labels_iff]
  constructor
  · intro same
    constructor
    · intro key other
      have texts := same key
      rwa [canonicalText_of_ne other, Option.map_id_fun, id, id] at texts
    · have amounts := same "sizeLimit"
      cases first : labelAt left "sizeLimit" with
      | none =>
        rw [first, Option.map_none, eq_comm, Option.map_eq_none_iff] at amounts
        rw [amounts]
        exact .none
      | some text =>
        rw [first, Option.map_some, eq_comm, Option.map_eq_some_iff] at amounts
        obtain ⟨other, second, equal⟩ := amounts
        rw [second]
        exact .some (canonicalText_sizeLimit_iff.mp equal.symm)
  · rintro ⟨plain, measured⟩ key
    by_cases here : key = "sizeLimit"
    · subst here
      generalize labelAt left "sizeLimit" = text? at measured ⊢
      generalize labelAt right "sizeLimit" = other? at measured ⊢
      cases measured with
      | none => rfl
      | some same => exact congrArg some (canonicalText_sizeLimit_iff.mpr same)
    · rw [plain key here]

theorem normal_get?_nodeSelector (pods : Option PodSpec) :
    (toJson pods).normal.get? "nodeSelector" =
      (toJson (pods.bind (·.nodeSelector))).normal? {} := by
  cases pods with
  | none => rfl
  | some pods =>
    change (Json.normal (.record _)).get? _ = (toJson pods.nodeSelector).normal? {}
    rw [Json.get?_normal_record, ← Json.bind_toJson]
    cases pods.nodeSelector <;> rfl

theorem semanticEq_nodeSelector {left right : Option PodSpec}
    (same : semanticEq left right = true) :
    semanticEq (left.bind (·.nodeSelector)) (right.bind (·.nodeSelector)) = true := by
  rw [semanticEq_iff, ← normal_get?_nodeSelector, ← normal_get?_nodeSelector, Json.normal,
    semanticEq_iff.mp same, ← Json.normal]

theorem semanticEq_withSelector {pods : PodSpec} {selector : Option Labels}
    (same : semanticEq pods.nodeSelector selector = true) :
    semanticEq pods { pods with nodeSelector := selector } = true := by
  have member := member_of_semanticEq (by decide : Json.Place.member {} "nodeSelector" = {}) same
  refine semanticEq_iff.mpr (Json.normal?_record_congr (by simp) ?_)
  simp only [Json.said, List.map_cons, Json.bind_toJson, member]

def Kubernetes.Deployment.nodeSelector (d : Deployment) : Option Labels :=
  d.asked.template.spec.bind (·.nodeSelector)

theorem nodeSelector_convergeDeployment (current desired : Deployment) :
    (convergeDeployment current desired).value.nodeSelector =
      if semanticEq current.asked.template.spec desired.asked.template.spec then
        current.nodeSelector
      else desired.nodeSelector := by
  change (Merged.adopt current.asked.template.spec desired.asked.template.spec).value.bind _ = _
  unfold Merged.adopt
  split <;> rfl

theorem selectAlike_convergeDeployment (current desired : Deployment) :
    SelectAlike (convergeDeployment current desired).value.nodeSelector desired.nodeSelector := by
  rw [← semanticEq_iff_selectAlike]
  exact semanticEq_nodeSelector (Merged.semanticEq_adopt _ _)

theorem labelAt_convergeDeployment_iff (current desired : Deployment) :
    (∀ key, labelAt (convergeDeployment current desired).value.nodeSelector key =
        labelAt desired.nodeSelector key) ↔
      (semanticEq current.asked.template.spec desired.asked.template.spec = true →
        labelAt current.nodeSelector "sizeLimit" = labelAt desired.nodeSelector "sizeLimit") := by
  rw [nodeSelector_convergeDeployment]
  cases same : semanticEq current.asked.template.spec desired.asked.template.spec with
  | true =>
    have alike : SelectAlike current.nodeSelector desired.nodeSelector :=
      (semanticEq_iff_selectAlike _ _).mp (semanticEq_nodeSelector same)
    constructor
    · intro equal _
      exact equal "sizeLimit"
    · intro measured key
      by_cases here : key = "sizeLimit"
      · rw [here]
        exact measured rfl
      · exact alike.plain key here
  | false => exact ⟨fun _ => nofun, fun _ _ => rfl⟩

/-- Pods that differ in their node selectors only count as equal just where the selectors differ in
    no more than how they spell an amount under `sizeLimit`; that is as far as the selector of a
    deployment that was brought in line is the desired one, and it is that one unless the pods were
    left alone although their text under `sizeLimit` was another. -/
theorem nodeSelectors_compared (pods : PodSpec) (selector : Option Labels)
    (current desired : Deployment) :
    (semanticEq pods { pods with nodeSelector := selector } = true ↔
        SelectAlike pods.nodeSelector selector) ∧
      SelectAlike (convergeDeployment current desired).value.nodeSelector desired.nodeSelector ∧
      ((∀ key, labelAt (convergeDeployment current desired).value.nodeSelector key =
          labelAt desired.nodeSelector key) ↔
        (semanticEq current.asked.template.spec desired.asked.template.spec = true →
          labelAt current.nodeSelector "sizeLimit" = labelAt desired.nodeSelector "sizeLimit")) := by
  refine ⟨?_, selectAlike_convergeDeployment current desired,
    labelAt_convergeDeployment_iff current desired⟩
  rw [← semanticEq_iff_selectAlike]
  constructor
  · intro same
    have wrapped : semanticEq (some pods) (some { pods with nodeSelector := selector }) = true :=
      same
    exact semanticEq_nodeSelector wrapped
  · exact semanticEq_withSelector

def podsSelecting (key text : String) : PodSpec := { nodeSelector := some (.ofList [(key, text)]) }

def deploymentSelecting (key text : String) : Deployment :=
  { spec := some { template := { spec := some (podsSelecting key text) } } }

theorem selector_of_plain_label :
    labelAt (deploymentSelecting "disk" "500m").nodeSelector "sizeLimit" =
        labelAt (deploymentSelecting "disk" "0.5").nodeSelector "sizeLimit" ∧
      labelAt (convergeDeployment (deploymentSelecting "disk" "500m")
        (deploymentSelecting "disk" "0.5")).value.nodeSelector "disk" = some "0.5" := by
  have free : labelAt (deploymentSelecting "disk" "500m").nodeSelector "sizeLimit" =
      labelAt (deploymentSelecting "disk" "0.5").nodeSelector "sizeLimit" := by decide
  obtain ⟨-, -, stored⟩ := nodeSelectors_compared {} none (deploymentSelecting "disk" "500m")
    (deploymentSelecting "disk" "0.5")
  exact ⟨free, (stored.mpr (fun _ => free) "disk").trans (by decide)⟩

/-- A label that happens to be called `sizeLimit` is taken for an amount, and is not brought in line
    where the one that is there is the same number. -/
theorem selector_kept_under_sizeLimit :
    semanticEq (podsSelecting "sizeLimit" "1024") (podsSelecting "sizeLimit" "1Ki") = true ∧
      labelAt (deploymentSelecting "sizeLimit" "1Ki").nodeSelector "sizeLimit" = some "1Ki" ∧
      labelAt (convergeDeployment (deploymentSelecting "sizeLimit" "1024")
        (deploymentSelecting "sizeLimit" "1Ki")).value.nodeSelector "sizeLimit" = some "1024" := by
  decide

end AutoscalerOperator
