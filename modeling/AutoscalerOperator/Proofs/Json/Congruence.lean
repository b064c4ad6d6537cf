import AutoscalerOperator.Proofs.Json.Normal

namespace AutoscalerOperator

namespace Json

variable {place : Place} {left right : List (String × Option Json)}

theorem ascending_normalMembers (place : Place) (members : List (String × Json)) :
    Entries.Ascending (normalMembers place members) := by
  induction members with
  | nil => exact List.Pairwise.nil
  | cons member rest ih =>
    obtain ⟨key, json⟩ := member
    rw [normalMembers]
    exact ascending_putMember ih key _

theorem normal?_obj_congr {left right : List (String × Json)}
    (same : ∀ key, (Entries.get? key left).bind (normal? (place.member key)) =
      (Entries.get? key right).bind (normal? (place.member key))) :
    normal? place (.obj left) = normal? place (.obj right) := by
  have members : normalMembers place left = normalMembers place right := by
    refine (ascending_normalMembers place left).ext (ascending_normalMembers place right) ?_
    intro key
    rw [get?_normalMembers, get?_normalMembers, same]
  rw [normal?, normal?, members]

theorem objectOrNone_injective {left right : List (String × Json)}
    (same : objectOrNone left = objectOrNone right) : left = right := by
  cases left <;> cases right <;> simp_all [objectOrNone]

theorem normal?_obj_iff {left right : List (String × Json)} :
    normal? place (.obj left) = normal? place (.obj right) ↔
      ∀ key, (Entries.get? key left).bind (normal? (place.member key)) =
        (Entries.get? key right).bind (normal? (place.member key)) := by
  constructor
  · intro same key
    rw [normal?, normal?] at same
    rw [← get?_normalMembers, ← get?_normalMembers, objectOrNone_injective same]
  · exact normal?_obj_congr

def said (place : Place) (members : List (String × Option Json)) : List (String × Option Json) :=
  members.map fun (key, value) => (key, value.bind (normal? (place.member key)))

theorem findSome?_fresh {key : String} (fresh : key ∉ left.map (·.1)) :
    (left.findSome? fun (other, value) => if other = key then value else none) = none := by
  refine List.findSome?_eq_none_iff.mpr fun (other, value) member => if_neg ?_
  rintro rfl
  exact fresh (List.mem_map_of_mem member)

theorem findSome?_cons_fresh {key : String} (fresh : key ∉ left.map (·.1)) (value : Option Json) :
    (((key, value) :: left).findSome? fun (other, value) =>
      if other = key then value else none) = value := by
  have later := findSome?_fresh fresh
  cases value <;> simp [later]

theorem keys_said (place : Place) (members : List (String × Option Json)) :
    (said place members).map (·.1) = members.map (·.1) := by
  rw [said, List.map_map]
  rfl

theorem findSome?_said (place : Place) (key : String) (distinct : (left.map (·.1)).Nodup) :
    ((said place left).findSome? fun (other, value) => if other = key then value else none) =
      (left.findSome? fun (other, value) => if other = key then value else none).bind
        (normal? (place.member key)) := by
  induction left with
  | nil => rfl
  | cons member rest ih =>
    obtain ⟨other, value⟩ := member
    obtain ⟨fresh, distinct⟩ := List.nodup_cons.mp distinct
    by_cases here : other = key
    · subst here
      -- No later member is under the key, so what this one says is all there is.
      have unsaid : other ∉ (said place rest).map (·.1) := (keys_said place rest).symm ▸ fresh
      rw [findSome?_cons_fresh fresh]
      exact findSome?_cons_fresh unsaid _
    · simpa [said, here] using ih distinct

theorem normal?_record_congr (distinct : (left.map (·.1)).Nodup)
    (same : said place left = said place right) :
    normal? place (.record left) = normal? place (.record right) := by
  have keys : left.map (·.1) = right.map (·.1) := by
    rw [← keys_said place left, same, keys_said]
  refine normal?_obj_congr fun key => ?_
  rw [get?_filterMap, get?_filterMap, ← findSome?_said place key distinct,
    ← findSome?_said place key (keys ▸ distinct), same]

theorem ext_of_findSome? (distinct : (left.map (·.1)).Nodup)
    (keys : left.map (·.1) = right.map (·.1))
    (same : ∀ key, (left.findSome? fun (other, value) => if other = key then value else none) =
      right.findSome? fun (other, value) => if other = key then value else none) :
    left = right := by
  induction left generalizing right with
  | nil => exact (List.map_eq_nil_iff.mp keys.symm).symm
  | cons member rest ih =>
    obtain ⟨key, value⟩ := member
    obtain ⟨fresh, distinct⟩ := List.nodup_cons.mp distinct
    cases right with
    | nil => cases keys
    | cons other others =>
      obtain ⟨key', value'⟩ := other
      obtain ⟨rfl, later⟩ : key = key' ∧ rest.map (·.1) = others.map (·.1) := List.cons.inj keys
      have fresh' : key ∉ others.map (·.1) := later ▸ fresh
      have values := same key
      rw [findSome?_cons_fresh fresh, findSome?_cons_fresh fresh'] at values
      rw [values, ih distinct later fun other => ?_]
      by_cases here : key = other
      · rw [← here, findSome?_fresh fresh, findSome?_fresh fresh']
      · simpa [here] using same other

theorem normal?_record_iff (distinct : (left.map (·.1)).Nodup)
    (keys : left.map (·.1) = right.map (·.1)) :
    normal? place (.record left) = normal? place (.record right) ↔
      said place left = said place right := by
  constructor
  · intro same
    refine ext_of_findSome? ((keys_said place left).symm ▸ distinct)
      (by rw [keys_said, keys_said, keys]) fun key => ?_
    rw [findSome?_said place key distinct, findSome?_said place key (keys ▸ distinct),
      ← get?_filterMap, ← get?_filterMap]
    exact normal?_obj_iff.mp same key
  · exact normal?_record_congr distinct

theorem bind_toJson {α : Type} [ToJson α] (place : Place) (value : Option α) :
    (value.map toJson).bind (normal? place) = (toJson value).normal? place := by
  cases value <;> rfl

end Json

end AutoscalerOperator
