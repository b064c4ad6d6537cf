import AutoscalerOperator.SemanticEquality

namespace AutoscalerOperator

namespace Json

variable {place : Place} {key : String}

theorem get?_putMember (key other : String) (json : Option Json)
    (members : List (String × Json)) :
    Entries.get? other (putMember key json members) =
      if key = other then json else Entries.get? other members := by
  cases json with
  | none => exact Entries.get?_erase key other members
  | some json => exact Entries.get?_insert key other json members

theorem ascending_putMember {members : List (String × Json)}
    (ascending : Entries.Ascending members) (key : String) (json : Option Json) :
    Entries.Ascending (putMember key json members) := by
  cases json with
  | none => exact ascending.erase
  | some json => exact ascending.insert

theorem get?_normalMembers (place : Place) (key : String) (members : List (String × Json)) :
    Entries.get? key (normalMembers place members) =
      (Entries.get? key members).bind (normal? (place.member key)) := by
  induction members with
  | nil => rfl
  | cons member rest ih =>
    obtain ⟨other, json⟩ := member
    rw [normalMembers, get?_putMember, Entries.get?]
    by_cases same : other = key
    · simp [same]
    · simp [same, ih]

def normal (json : Json) : Json := (json.normal? {}).getD .null

theorem get?_normal_obj (key : String) (members : List (String × Json)) :
    (normal (.obj members)).get? key =
      (Entries.get? key members).bind (normal? (Place.member {} key)) := by
  rw [← get?_normalMembers, normal, normal?]
  cases normalMembers {} members <;> rfl

theorem get?_filterMap (key : String) (members : List (String × Option Json)) :
    Entries.get? key (members.filterMap fun (other, value) => value.map (other, ·)) =
      members.findSome? fun (other, value) => if other = key then value else none := by
  induction members with
  | nil => rfl
  | cons member rest ih =>
    obtain ⟨other, value⟩ := member
    cases value with
    | none => simpa using ih
    | some json => by_cases same : other = key <;> simp [Entries.get?, same, ih]

theorem get?_normal_record (key : String) (members : List (String × Option Json)) :
    (normal (.record members)).get? key =
      (members.findSome? fun (other, value) => if other = key then value else none).bind
        (normal? (Place.member {} key)) := by
  rw [record, get?_normal_obj, get?_filterMap]

theorem arrayOrNone_injective {left right : List Json}
    (same : arrayOrNone left = arrayOrNone right) : left = right := by
  cases left <;> cases right <;> simp_all [arrayOrNone]

theorem normalItems_eq_map (items : List Json) : normalItems items = items.map normal := by
  induction items with
  | nil => rfl
  | cons item rest ih => rw [normalItems, ih, List.map_cons, normal]

end Json

section

variable {α : Type} [ToJson α] {left middle right : α}

theorem semanticEq_iff :
    semanticEq left right = true ↔ (toJson left).normal? {} = (toJson right).normal? {} :=
  decide_eq_true_iff

theorem semanticEq_refl (value : α) : semanticEq value value = true :=
  semanticEq_iff.mpr rfl

theorem semanticEq_comm (left right : α) : semanticEq left right = semanticEq right left := by
  simp only [semanticEq, Json.agree, eq_comm]

theorem semanticEq_trans (first : semanticEq left middle = true)
    (second : semanticEq middle right = true) : semanticEq left right = true :=
  semanticEq_iff.mpr ((semanticEq_iff.mp first).trans (semanticEq_iff.mp second))

theorem semanticEq_congr_left (same : semanticEq left middle = true) (right : α) :
    semanticEq left right = semanticEq middle right := by
  rw [Bool.eq_iff_iff, semanticEq_iff, semanticEq_iff, semanticEq_iff.mp same]

end

section

variable {α β γ : Type}

theorem map_eq_map_of_imp {f : α → β} {g : α → γ} (determined : ∀ a b, f a = f b → g a = g b)
    {left right : List α} (same : left.map f = right.map f) : left.map g = right.map g := by
  induction left generalizing right with
  | nil =>
    cases right with
    | nil => rfl
    | cons head rest => simp at same
  | cons head rest ih =>
    cases right with
    | nil => simp at same
    | cons other others =>
      simp only [List.map_cons, List.cons.injEq] at same ⊢
      exact ⟨determined head other same.1, ih same.2⟩

theorem map_eq_of_semanticEq [ToJson α] {view : α → β}
    (read : ∀ a b : α, (toJson a).normal = (toJson b).normal → view a = view b)
    {left right : List α} (same : semanticEq left right = true) :
    left.map view = right.map view := by
  have forms := semanticEq_iff.mp same
  have items := Json.arrayOrNone_injective forms
  rw [Json.normalItems_eq_map, Json.normalItems_eq_map, List.map_map, List.map_map] at items
  exact map_eq_map_of_imp read items

end

end AutoscalerOperator
