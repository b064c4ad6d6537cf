import AutoscalerOperator.Proofs.Status.History

namespace AutoscalerOperator

open Kubernetes

def Condition.dated (c : Condition) (time : Instant) : Condition :=
  { c with lastTransitionTime := some time }

theorem toJson_dated {c : Condition} {first second : Instant}
    (same : first.toText = second.toText) : toJson (c.dated first) = toJson (c.dated second) := by
  change Json.record (("lastTransitionTime", some (.str first.toText)) :: _) =
    Json.record (("lastTransitionTime", some (.str second.toText)) :: _)
  rw [same]
  rfl

/-- What a report says has a condition about progress, and no two of one type. -/
structure Reportable (conditions : List Condition) : Prop where
  known : ∀ c ∈ conditions, c.recognized = c
  distinct : (conditions.map (·.type)).Nodup
  progressing : .progressing ∈ conditions.map (·.type)

theorem reportable_statusOf (config : Config) (checked : Except Error Bool) :
    Reportable (statusOf config checked).conditions := by
  have types : (statusOf config checked).conditions.map (·.type) = Report.conditionTypes := by
    rcases checked with e | _ | _ <;> rfl
  constructor
  · intro c member
    exact Report.recognized_of_conditionTypes (types ▸ List.mem_map_of_mem member)
  · rw [types]
    decide
  · rw [types]
    decide

section

variable {conditions stored : List Condition}

theorem findCondition_of_mem {c : Condition} (distinct : (conditions.map (·.type)).Nodup)
    (member : c ∈ conditions) : findCondition conditions c.type = some c := by
  induction conditions with
  | nil => cases member
  | cons head rest ih =>
    obtain ⟨fresh, distinct⟩ := List.nodup_cons.mp distinct
    rcases List.mem_cons.mp member with rfl | member
    · simp [findCondition]
    · have different : head.type ≠ c.type := fun same =>
        fresh (List.mem_map.mpr ⟨c, member, same.symm⟩)
      have found := ih distinct member
      simpa [findCondition, different] using found

theorem findCondition_told (conditions : List Condition) (type : ConditionType) :
    (findCondition conditions type).map Condition.told =
      (conditions.map Condition.told).find? (·.1 = type) := by
  rw [List.find?_map]
  rfl

theorem types_dated (conditions : List Condition) (time : Condition → Instant) :
    (conditions.map fun c => c.dated (time c)).map (·.type) = conditions.map (·.type) := by
  rw [List.map_map]
  rfl

theorem Reportable.known_dated (reportable : Reportable conditions) (time : Condition → Instant) :
    ∀ c ∈ conditions.map fun c => c.dated (time c), c.recognized = c := by
  intro c member
  obtain ⟨given, listed, rfl⟩ := List.mem_map.mp member
  exact congrArg (Condition.dated · (time given)) (reportable.known given listed)

theorem resetProgressingTime_dated (reportable : Reportable conditions)
    (time : Condition → Instant) (now : Instant) :
    resetProgressingTime now (conditions.map fun c => c.dated (time c)) =
      conditions.map fun c => c.dated (if c.type = .progressing then now else time c) := by
  obtain ⟨-, distinct, progressing⟩ := reportable
  induction conditions with
  | nil => cases progressing
  | cons head rest ih =>
    obtain ⟨fresh, distinct⟩ := List.nodup_cons.mp distinct
    by_cases here : head.type = .progressing
    · -- The later conditions are about something else, so they keep their times.
      have kept : ∀ c ∈ rest, c.dated (if c.type = .progressing then now else time c) =
          c.dated (time c) := by
        intro c member
        have different : c.type ≠ .progressing := fun same =>
          fresh (List.mem_map.mpr ⟨c, member, same.trans here.symm⟩)
        rw [if_neg different]
      have first : (head.dated (time head)).type = .progressing := here
      rw [List.map_cons, List.map_cons, resetProgressingTime, if_pos first, if_pos here,
        List.map_congr_left kept]
      rfl
    · have later : .progressing ∈ rest.map (·.type) :=
        (List.mem_cons.mp progressing).resolve_left fun same => here same.symm
      have first : (head.dated (time head)).type ≠ .progressing := here
      rw [List.map_cons, List.map_cons, resetProgressingTime, if_neg first, if_neg here,
        ih distinct later]

theorem toJson_since {time : Condition → Instant} (reportable : Reportable conditions)
    (known : ∀ c ∈ stored, c.recognized = c)
    (same : semanticEq stored (conditions.map fun c => c.dated (time c)) = true) (now : Instant) :
    toJson (conditions.map (·.since stored now)) =
      toJson (conditions.map fun c => c.dated (time c)) := by
  have dated := reportable.known_dated time
  have told : stored.map Condition.told =
      (conditions.map fun c => c.dated (time c)).map Condition.told := by
    have views : stored.map (fun c => c.recognized.told) =
        (conditions.map fun c => c.dated (time c)).map fun c => c.recognized.told :=
      map_eq_of_semanticEq (fun _ _ => Condition.told_of_normal) same
    rwa [List.map_congr_left fun c member => congrArg Condition.told (known c member),
      List.map_congr_left fun c member => congrArg Condition.told (dated c member)] at views
  have each : ∀ c ∈ conditions, toJson (c.since stored now) = toJson (c.dated (time c)) := by
    intro c member
    have published : findCondition (conditions.map fun c => c.dated (time c)) c.type =
        some (c.dated (time c)) := by
      refine findCondition_of_mem ?_ (List.mem_map_of_mem member)
      rw [types_dated]
      exact reportable.distinct
    have looked : (findCondition stored c.type).map Condition.told =
        some (c.type, some c.status, some (time c).toText) := by
      rw [findCondition_told, told, ← findCondition_told, published]
      rfl
    obtain ⟨found, stands, was⟩ := Option.map_eq_some_iff.mp looked
    have kept : (c.since stored now).told = (c.type, some c.status, some (time c).toText) := by
      rw [told_since_of_some stands was, if_pos rfl]
    have text := congrArg (fun told => told.2.2) kept
    exact toJson_dated (Option.some.inj text)
  change Json.arr _ = Json.arr _
  rw [List.map_map, List.map_map]
  exact congrArg Json.arr (List.map_congr_left each)

theorem conditions_completedStatus {reported : ClusterOperatorStatus}
    (reportable : Reportable reported.conditions) (config : Config)
    (previous : ClusterOperatorStatus) (now : Instant) :
    ∃ time : Condition → Instant, (completedStatus config previous reported now).conditions =
      reported.conditions.map fun c => c.dated (time c) := by
  let since (c : Condition) : Instant :=
    ((findCondition previous.conditions c.type).bind fun p =>
      if p.status = c.status then p.lastTransitionTime else none).getD now
  by_cases same : semanticEq (reported.versions.or previous.versions) previous.versions = true
  · exact ⟨since, if_pos same⟩
  · exact ⟨_, (if_neg same).trans (resetProgressingTime_dated reportable since now)⟩

end

theorem mergeStatus_again {reported : ClusterOperatorStatus}
    (reportable : Reportable reported.conditions) (config : Config)
    (previous : ClusterOperatorStatus) (now later : Instant) :
    let published :=
      (mergeStatus previous (completedStatus config previous reported now)).value.recognized
    (mergeStatus published (completedStatus config published reported later)).changed = false := by
  intro published
  have versions :
      semanticEq published.versions (reported.versions.or published.versions) = true := by
    cases given : reported.versions with
    | none => exact semanticEq_refl _
    | some versions =>
      have adopted := Merged.semanticEq_adopt previous.versions
        (reported.versions.or previous.versions)
      rw [given] at adopted
      change semanticEq (Merged.adopt previous.versions
        (reported.versions.or previous.versions)).value _ = true
      rw [given]
      exact adopted
  have conditions : semanticEq published.conditions
      (completedStatus config published reported later).conditions = true := by
    have unreset : (completedStatus config published reported later).conditions =
        reported.conditions.map (·.since published.conditions later) := by
      rw [semanticEq_comm] at versions
      exact if_pos versions
    obtain ⟨time, dated⟩ := conditions_completedStatus reportable config previous now
    have adopted : semanticEq published.conditions
        (completedStatus config previous reported now).conditions = true := by
      have merged := Merged.semanticEq_adopt previous.conditions
        (completedStatus config previous reported now).conditions
      rwa [← semanticEq_recognized] at merged
    have known : ∀ c ∈ published.conditions, c.recognized = c := by
      intro c member
      obtain ⟨given, -, rfl⟩ := List.mem_map.mp member
      exact given.recognized_recognized
    rw [dated] at adopted
    rw [unreset, semanticEq, toJson_since reportable known adopted later]
    exact adopted
  have related : (Merged.adopt published.relatedObjects (relatedObjects config)).changed = false :=
    Merged.adopt_unchanged (Merged.semanticEq_adopt previous.relatedObjects _)
  have extension : (Merged.adopt published.extension published.extension).changed = false := by
    rw [Merged.adopt_self]
  have merged : (mergeStatus published (completedStatus config published reported later)).changed =
      ((Merged.adopt published.conditions
        (completedStatus config published reported later).conditions).changed ||
      (Merged.adopt published.versions (reported.versions.or published.versions)).changed ||
      (Merged.adopt published.extension published.extension).changed ||
      (Merged.adopt published.relatedObjects (relatedObjects config)).changed) := rfl
  rw [merged, Merged.adopt_unchanged conditions, Merged.adopt_unchanged versions, extension,
    related]
  rfl

end AutoscalerOperator
