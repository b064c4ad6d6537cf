import AutoscalerOperator.Proofs.Json.Meaning
import AutoscalerOperator.Proofs.Status.Owners

namespace AutoscalerOperator

open Kubernetes

theorem Merged.value_run {α β : Type} (merge : β → α → Merged α) (steps : List β)
    (start : Merged α) :
    (Merged.run merge steps start).value =
      steps.foldl (fun value step => (merge step value).value) start.value := by
  induction steps generalizing start with
  | nil => rfl
  | cons step rest ih => exact ih (start.andThen (merge step))

section

variable (existing required : Option String)

theorem value_mergeText :
    (mergeText existing required).value = (required.filter (· ≠ "")).or existing := by
  cases required with
  | none => rfl
  | some text =>
    by_cases blank : text = ""
    · have dropped : (some text).filter (· ≠ "") = none := by simp [Option.filter, blank]
      rw [dropped]
      simp [mergeText, blank]
    · have kept : (some text).filter (· ≠ "") = some text := by simp [Option.filter, blank]
      rw [kept]
      by_cases same : existing = some text <;> simp [mergeText, blank, same]

theorem changed_mergeText :
    (mergeText existing required).changed = true ↔
      (mergeText existing required).value ≠ existing := by
  cases required with
  | none => simp [mergeText]
  | some text =>
    by_cases idle : text = "" ∨ existing = some text
    · simp [mergeText, idle]
    · have other := (not_or.mp idle).2
      simp [mergeText, idle, Ne.symm other]

theorem mergeText_again :
    mergeText (mergeText existing required).value required =
      ⟨(mergeText existing required).value, false⟩ := by
  cases required with
  | none => rfl
  | some text =>
    by_cases idle : text = "" ∨ existing = some text <;> simp [mergeText, idle]

end

theorem SortedMap.nodup_keys {α : Type} (map : SortedMap α) : (map.entries.map (·.1)).Nodup :=
  List.pairwise_map.mpr (map.ascending.imp fun {_ _} below => String.ne_of_lt below)

/-- How labels come out when required ones are merged into them: each key holds what is required of
    it, or else what it held. -/
structure Overridden (existing required after : Option Labels) : Prop where
  entries : ∀ key, labelAt after key = (labelAt required key).or (labelAt existing key)
  present : after.isSome ↔ existing.isSome ∨ required.isSome

theorem honest_putLabel :
    Merged.Honest fun (entry : String × String) labels => putLabel labels entry.1 entry.2 := by
  intro entry labels unchanged
  by_cases held : labels.get? entry.1 = some entry.2
  · simp [putLabel, held]
  · simp [putLabel, held] at unchanged

theorem value_putLabel (labels : Labels) (key value : String) :
    (putLabel labels key value).value = labels.insert key value := by
  by_cases held : labels.get? key = some value
  · have same : labels.insertAll [(key, value)] = labels :=
      SortedMap.insertAll_of_held (List.forall_mem_singleton.mpr held)
    rw [putLabel, if_pos held]
    exact same.symm
  · rw [putLabel, if_neg held]

theorem mergeLabels_some (existing : Option Labels) (required : Labels) :
    mergeLabels existing (some required) =
      (Merged.run (fun (entry : String × String) labels => putLabel labels entry.1 entry.2)
        required.entries ⟨existing.getD .empty, false⟩).map some := rfl

theorem value_mergeLabels_some (existing : Option Labels) (required : Labels) :
    (mergeLabels existing (some required)).value = withStamps existing required.entries := by
  rw [mergeLabels_some, Merged.map, Merged.value_run]
  simp only [value_putLabel]
  rfl

section

variable (existing required : Option Labels)

theorem overridden_mergeLabels :
    Overridden existing required (mergeLabels existing required).value := by
  cases required with
  | none => exact ⟨fun key => rfl, by simp [mergeLabels]⟩
  | some required =>
    rw [value_mergeLabels_some]
    refine ⟨fun key => ?_, by simp [withStamps]⟩
    have restamped := restamped_insertAll existing required.nodup_keys
    change ((existing.getD .empty).insertAll required.entries).get? key =
      (required.get? key).or (labelAt existing key)
    cases found : required.get? key with
    | some value => exact restamped.stamped key value (Entries.mem_of_get? found)
    | none =>
      refine restamped.others key fun listed => ?_
      obtain ⟨⟨_, value⟩, member, rfl⟩ := List.mem_map.mp listed
      cases found.symm.trans (SortedMap.get?_of_mem member)

variable {existing required}

theorem Overridden.idle {after labels : Labels}
    (overridden : Overridden existing (some labels) (some after)) {entry : String × String}
    (listed : entry ∈ labels.entries) : putLabel after entry.1 entry.2 = ⟨after, false⟩ := by
  have said := overridden.entries entry.1
  change after.get? entry.1 = (labels.get? entry.1).or (labelAt existing entry.1) at said
  rw [SortedMap.get?_of_mem listed, Option.some_or] at said
  rw [putLabel, if_pos said]

variable (existing required)

theorem changed_mergeLabels :
    (mergeLabels existing required).changed = true ↔
      (mergeLabels existing required).value.getD .empty ≠ existing.getD .empty := by
  have overridden := overridden_mergeLabels existing required
  cases required with
  | none => simp [mergeLabels]
  | some required =>
    rw [mergeLabels_some] at overridden ⊢
    exact Merged.changed_run_iff honest_putLabel fun entry listed => overridden.idle listed

theorem mergeLabels_again :
    mergeLabels (mergeLabels existing required).value required =
      ⟨(mergeLabels existing required).value, false⟩ := by
  have overridden := overridden_mergeLabels existing required
  cases required with
  | none => rfl
  | some required =>
    rw [value_mergeLabels_some] at overridden ⊢
    have idle := Merged.foldl_unchanged
      (fun (entry : String × String) labels => putLabel labels entry.1 entry.2)
      fun entry listed => overridden.idle listed
    rw [mergeLabels_some, Merged.run, withStamps, Option.getD_some, idle]
    rfl

end

/-- Metadata where what is missing and what is empty are one. -/
def Kubernetes.ObjectMeta.filled (m : ObjectMeta) : ObjectMeta :=
  { m with
    labels := some (m.labels.getD .empty)
    annotations := some (m.annotations.getD .empty)
    ownerReferences := some (m.ownerReferences.getD []) }

structure MetadataMerged (existing required after : ObjectMeta) : Prop where
  name : after.name = (required.name.filter (· ≠ "")).or existing.name
  namespaceName :
    after.namespaceName = (required.namespaceName.filter (· ≠ "")).or existing.namespaceName
  labels : Overridden existing.labels required.labels after.labels
  annotations : Overridden existing.annotations required.annotations after.annotations
  owners : OwnersMerged (required.ownerReferences.getD []) [] (existing.ownerReferences.getD [])
    (after.ownerReferences.getD [])
  ownersPresent : after.ownerReferences.isSome ↔
    existing.ownerReferences.isSome ∨ required.ownerReferences.getD [] ≠ []
  others : after = { existing with
    name := after.name
    namespaceName := after.namespaceName
    labels := after.labels
    annotations := after.annotations
    ownerReferences := after.ownerReferences }

section

variable {existing required : ObjectMeta}

theorem metadataMerged_mergeMetadata
    (distinct : DistinctOwners (required.ownerReferences.getD [])) :
    MetadataMerged existing required (mergeMetadata existing required).value where
  name := value_mergeText _ _
  namespaceName := value_mergeText _ _
  labels := overridden_mergeLabels _ _
  annotations := overridden_mergeLabels _ _
  owners := ownersMerged_mergeOwnerReferences _ distinct
  ownersPresent := isSome_mergeOwnerReferences _ _
  others := rfl

theorem changed_mergeMetadata (distinct : DistinctOwners (required.ownerReferences.getD [])) :
    (mergeMetadata existing required).changed = true ↔
      (mergeMetadata existing required).value.filled ≠ existing.filled := by
  have name := changed_mergeText existing.name required.name
  have namespaceName := changed_mergeText existing.namespaceName required.namespaceName
  have labels := changed_mergeLabels existing.labels required.labels
  have annotations := changed_mergeLabels existing.annotations required.annotations
  have owners := changed_mergeOwnerReferences existing.ownerReferences distinct
  simp only [mergeMetadata, Bool.or_eq_true, name, namespaceName, labels, annotations, owners,
    ObjectMeta.filled, ne_eq, ObjectMeta.mk.injEq, Option.some.injEq, true_and, and_true]
  grind

theorem mergeMetadata_again (distinct : DistinctOwners (required.ownerReferences.getD [])) :
    mergeMetadata (mergeMetadata existing required).value required =
      ⟨(mergeMetadata existing required).value, false⟩ := by
  unfold mergeMetadata
  simp only [mergeText_again, mergeLabels_again, mergeOwnerReferences_again _ distinct]
  rfl

end

/-- What is required of an object's metadata is merged into them once and for all, and a flag raised
    before stays raised. -/
theorem mergeMetadata_settles (existing required : ObjectMeta) (modified again : Bool)
    (distinct : DistinctOwners (required.ownerReferences.getD [])) :
    let merged := (Merged.mk existing modified).andThen (mergeMetadata · required)
    MetadataMerged existing required merged.value ∧
      (merged.changed = true ↔ modified = true ∨ merged.value.filled ≠ existing.filled) ∧
      (Merged.mk merged.value again).andThen (mergeMetadata · required) =
        ⟨merged.value, again⟩ := by
  refine ⟨metadataMerged_mergeMetadata distinct, ?_, ?_⟩
  · exact Bool.or_eq_true_iff.trans (or_congr_right (changed_mergeMetadata distinct))
  · simp only [Merged.andThen, mergeMetadata_again distinct, Bool.or_false]

def metaOwnedBy (owners : List OwnerReference) : ObjectMeta := { ownerReferences := some owners }

theorem renamed_owner_settles :
    let existing := metaOwnedBy
      [{ uid := "1", name := "a" }, { uid := "2", name := "b" }, { uid := "2", name := "c" }]
    let required := metaOwnedBy [{ uid := "2", name := "renamed" }, { uid := "3", name := "d" }]
    let merged := (Merged.mk existing false).andThen (mergeMetadata · required)
    DistinctOwners (required.ownerReferences.getD []) ∧
      MetadataMerged existing required merged.value ∧ merged.changed = true ∧
      (merged.value.ownerReferences.getD []).map (·.name) = ["a", "renamed", "c", "d"] ∧
      (Merged.mk merged.value false).andThen (mergeMetadata · required) =
        ⟨merged.value, false⟩ := by
  intro existing required merged
  have distinct : DistinctOwners (required.ownerReferences.getD []) := by
    simp [required, metaOwnedBy, DistinctOwners]
  obtain ⟨outcome, changed, settled⟩ := mergeMetadata_settles existing required false false distinct
  have names : (merged.value.ownerReferences.getD []).map (·.name) =
      ["a", "renamed", "c", "d"] := by decide
  refine ⟨distinct, outcome, changed.mpr (.inr fun same => ?_), names, settled⟩
  have before := congrArg (fun m : ObjectMeta => (m.ownerReferences.getD []).map (·.name)) same
  exact absurd (names.symm.trans before) (by decide)

end AutoscalerOperator
