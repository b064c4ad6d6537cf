import AutoscalerOperator.Proofs.Json.Normal
import AutoscalerOperator.Proofs.Managed.Settled
import AutoscalerOperator.Proofs.Status.Merging

namespace AutoscalerOperator

theorem ConditionStatus.name_injective {left right : ConditionStatus}
    (same : left.name = right.name) : left = right := by
  cases left <;> cases right <;> first | rfl | exact absurd same (by decide)

def Condition.told (c : Condition) : ConditionType × Option ConditionStatus × Option String :=
  (c.type, some c.status, c.lastTransitionTime.map Instant.toText)

def Condition.undated (c : Condition) : Condition := { c with lastTransitionTime := none }

theorem Json.normal?_str {place : Json.Place} (plain : place.amount = false) (text : String) :
    Json.normal? place (.str text) = some (.str text) := by
  rw [Json.normal?, Json.Place.canonicalText, plain]
  rfl

theorem Json.bind_unlessBlank {place : Json.Place} (plain : place.amount = false) (text : String) :
    (Json.unlessBlank text).bind (Json.normal? place) = Json.unlessBlank text := by
  unfold Json.unlessBlank
  split
  · rfl
  · exact Json.normal?_str plain text

theorem Json.unlessBlank_injective {left right : String}
    (same : Json.unlessBlank left = Json.unlessBlank right) : left = right := by
  unfold Json.unlessBlank at same
  split at same <;> split at same <;> simp_all

namespace Condition

theorem normal_get?_type (c : Condition) :
    (toJson c).normal.get? "type" = some (.str c.type.name) := by
  change (Json.normal (.record _)).get? _ = _
  rw [Json.get?_normal_record]
  exact Json.normal?_str (by decide) c.type.name

theorem normal_get?_status (c : Condition) :
    (toJson c).normal.get? "status" = some (.str c.status.name) := by
  change (Json.normal (.record _)).get? _ = _
  rw [Json.get?_normal_record]
  exact Json.normal?_str (by decide) c.status.name

theorem normal_get?_lastTransitionTime (c : Condition) :
    (toJson c).normal.get? "lastTransitionTime" =
      c.lastTransitionTime.map fun t => .str t.toText := by
  change (Json.normal (.record _)).get? _ = _
  rw [Json.get?_normal_record]
  cases c.lastTransitionTime with
  | none => rfl
  | some t =>
    exact Json.normal?_str (by decide) t.toText

theorem normal_get?_reason (c : Condition) :
    (toJson c).normal.get? "reason" = Json.unlessBlank c.reason := by
  have plain : (Json.Place.member {} "reason").amount = false := by decide
  change (Json.normal (.record _)).get? _ = _
  rw [Json.get?_normal_record]
  refine Eq.trans ?_ (Json.bind_unlessBlank plain c.reason)
  cases Json.unlessBlank c.reason <;> rfl

theorem normal_get?_message (c : Condition) :
    (toJson c).normal.get? "message" = Json.unlessBlank c.message := by
  have plain : (Json.Place.member {} "message").amount = false := by decide
  change (Json.normal (.record _)).get? _ = _
  rw [Json.get?_normal_record]
  refine Eq.trans ?_ (Json.bind_unlessBlank plain c.message)
  cases Json.unlessBlank c.message <;> rfl

section

variable {left right : Condition}

theorem type_of_normal (same : (toJson left).normal = (toJson right).normal) :
    left.recognized.type = right.recognized.type := by
  have types := congrArg (Json.get? "type") same
  rw [normal_get?_type, normal_get?_type] at types
  exact congrArg ConditionType.ofName (by simpa using types)

theorem status_of_normal (same : (toJson left).normal = (toJson right).normal) :
    left.status = right.status := by
  have statuses := congrArg (Json.get? "status") same
  rw [normal_get?_status, normal_get?_status] at statuses
  exact ConditionStatus.name_injective (by simpa using statuses)

theorem told_of_normal (same : (toJson left).normal = (toJson right).normal) :
    left.recognized.told = right.recognized.told := by
  have times := congrArg (Json.get? "lastTransitionTime") same
  rw [normal_get?_lastTransitionTime, normal_get?_lastTransitionTime] at times
  have time : left.lastTransitionTime.map Instant.toText =
      right.lastTransitionTime.map Instant.toText := by
    cases first : left.lastTransitionTime <;> cases second : right.lastTransitionTime <;>
      simp_all
  change (left.recognized.type, some left.status, _) = (right.recognized.type, some right.status, _)
  rw [type_of_normal same, status_of_normal same]
  exact congrArg (right.recognized.type, some right.status, ·) time

theorem undated_of_normal (same : (toJson left).normal = (toJson right).normal) :
    left.recognized.undated = right.recognized.undated := by
  have reasons := congrArg (Json.get? "reason") same
  have messages := congrArg (Json.get? "message") same
  rw [normal_get?_reason, normal_get?_reason] at reasons
  rw [normal_get?_message, normal_get?_message] at messages
  change Condition.mk left.recognized.type left.status none left.reason left.message = .mk ..
  rw [type_of_normal same, status_of_normal same, Json.unlessBlank_injective reasons,
    Json.unlessBlank_injective messages]
  rfl

end

end Condition

theorem semanticEq_recognized (left right : List Condition) :
    semanticEq (left.map Condition.recognized) right = semanticEq left right := by
  have same : toJson (left.map Condition.recognized) = toJson left := by
    change Json.arr ((left.map Condition.recognized).map toJson) = .arr _
    rw [List.map_map]
    exact congrArg Json.arr (List.map_congr_left fun c _ => c.toJson_recognized)
  rw [semanticEq, same, semanticEq]

theorem map_adopt {α β : Type} [ToJson α] {view : α → β}
    (read : ∀ a b : α, (toJson a).normal = (toJson b).normal → view a = view b)
    (existing required : List α) :
    (Merged.adopt existing required).value.map view = required.map view := by
  unfold Merged.adopt
  split
  · rename_i same
    exact map_eq_of_semanticEq read same
  · rfl

theorem map_recognized_adopt {β : Type} {view : Condition → β}
    (read : ∀ a b : Condition, (toJson a).normal = (toJson b).normal →
      view a.recognized = view b.recognized) (existing required : List Condition) :
    ((Merged.adopt existing required).value.map Condition.recognized).map view =
      (required.map Condition.recognized).map view := by
  rw [List.map_map, List.map_map]
  exact map_adopt read existing required

theorem OperandVersion.eq_of_normal {left right : OperandVersion}
    (same : (toJson left).normal = (toJson right).normal) : left = right := by
  have name (v : OperandVersion) : (toJson v).normal.get? "name" = some (.str v.name) := by
    change (Json.normal (.record _)).get? _ = _
    rw [Json.get?_normal_record]
    exact Json.normal?_str (by decide) v.name
  have version (v : OperandVersion) :
      (toJson v).normal.get? "version" = some (.str v.version) := by
    change (Json.normal (.record _)).get? _ = _
    rw [Json.get?_normal_record]
    exact Json.normal?_str (by decide) v.version
  have names := congrArg (Json.get? "name") same
  have versions := congrArg (Json.get? "version") same
  rw [name, name] at names
  rw [version, version] at versions
  cases left
  cases right
  simp_all

theorem versions_eq_of_semanticEq {left right : List OperandVersion}
    (same : semanticEq left right = true) : left = right := by
  have values : left.map id = right.map id :=
    map_eq_of_semanticEq (fun _ _ => OperandVersion.eq_of_normal) same
  simpa using values

theorem eq_nil_of_semanticEq_none {versions : List OperandVersion}
    (same : semanticEq none (some versions) = true) : versions = [] := by
  have forms : none = (toJson versions).normal? {} := of_decide_eq_true same
  have items : Json.arrayOrNone [] = Json.arrayOrNone (Json.normalItems (versions.map toJson)) :=
    forms
  have nil := Json.arrayOrNone_injective items
  rw [Json.normalItems_eq_map] at nil
  simpa using nil.symm

theorem versions_eq_iff {left right : Option (List OperandVersion)} (hl : left ≠ some [])
    (hr : right ≠ some []) : semanticEq left right = true ↔ left = right := by
  constructor
  · intro same
    cases left <;> cases right
    · rfl
    · exact absurd (congrArg some (eq_nil_of_semanticEq_none same)) hr
    · have same := of_decide_eq_true same
      exact absurd (congrArg some (eq_nil_of_semanticEq_none (decide_eq_true same.symm))) hl
    · exact congrArg some (versions_eq_of_semanticEq same)
  · rintro rfl
    exact semanticEq_refl left

theorem mergeStatus_of_unchanged {existing required : ClusterOperatorStatus}
    (unchanged : (mergeStatus existing required).changed = false) :
    (mergeStatus existing required).value = existing := by
  simp only [mergeStatus, Bool.or_eq_false_iff] at unchanged
  obtain ⟨⟨⟨conditions, versions⟩, extension⟩, related⟩ := unchanged
  simp only [mergeStatus, Merged.adopt_of_unchanged conditions,
    Merged.adopt_of_unchanged versions, Merged.adopt_of_unchanged extension,
    Merged.adopt_of_unchanged related]

end AutoscalerOperator
