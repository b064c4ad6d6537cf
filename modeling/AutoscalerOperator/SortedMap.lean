namespace AutoscalerOperator

/-! Entries under string keys. Look-up takes the first entry of a key; `insert` and `erase` keep
ascending entries ascending, and then each key occurs once. -/

namespace Entries

variable {α β : Type}

def get? (key : String) : List (String × α) → Option α
  | [] => none
  | (k, v) :: rest => if k = key then some v else get? key rest

def insert (key : String) (value : α) : List (String × α) → List (String × α)
  | [] => [(key, value)]
  | (k, v) :: rest =>
    if key < k then (key, value) :: (k, v) :: rest
    else if key = k then (key, value) :: rest
    else (k, v) :: insert key value rest

def erase (key : String) : List (String × α) → List (String × α)
  | [] => []
  | (k, v) :: rest => if k = key then erase key rest else (k, v) :: erase key rest

def Ascending (entries : List (String × α)) : Prop := entries.Pairwise fun a b => a.1 < b.1

instance (entries : List (String × α)) : Decidable (Ascending entries) :=
  inferInstanceAs (Decidable (entries.Pairwise _))

theorem mem_of_mem_insert {key : String} {value : α} {entry : String × α}
    {entries : List (String × α)} (h : entry ∈ insert key value entries) :
    entry = (key, value) ∨ entry ∈ entries := by
  induction entries with
  | nil => simpa [insert] using h
  | cons head rest ih =>
    unfold insert at h
    split at h
    · simpa using h
    · split at h
      · rcases List.mem_cons.mp h with h | h
        · exact .inl h
        · exact .inr (List.mem_cons_of_mem _ h)
      · rcases List.mem_cons.mp h with h | h
        · exact .inr (h ▸ List.mem_cons_self)
        · exact (ih h).imp_right (List.mem_cons_of_mem _)

theorem mem_of_mem_erase {key : String} {entry : String × α} {entries : List (String × α)}
    (h : entry ∈ erase key entries) : entry ∈ entries := by
  induction entries with
  | nil => exact h
  | cons head rest ih =>
    unfold erase at h
    split at h
    · exact List.mem_cons_of_mem _ (ih h)
    · rcases List.mem_cons.mp h with h | h
      · exact h ▸ List.mem_cons_self
      · exact List.mem_cons_of_mem _ (ih h)

theorem Ascending.insert {key : String} {value : α} {entries : List (String × α)}
    (h : Ascending entries) : Ascending (insert key value entries) := by
  induction entries with
  | nil => simp [Entries.insert, Ascending]
  | cons head rest ih =>
    obtain ⟨k, v⟩ := head
    have first := (List.pairwise_cons.mp h).1
    have tail := (List.pairwise_cons.mp h).2
    unfold Entries.insert
    split
    · rename_i below
      refine List.pairwise_cons.mpr ⟨fun entry member => ?_, h⟩
      rcases List.mem_cons.mp member with rfl | member
      · exact below
      · exact String.lt_trans below (first entry member)
    · rename_i notBelow
      split
      · rename_i same
        subst same
        exact List.pairwise_cons.mpr ⟨first, tail⟩
      · rename_i different
        refine List.pairwise_cons.mpr ⟨fun entry member => ?_, ih tail⟩
        rcases mem_of_mem_insert member with rfl | member
        · rcases String.le_total k key with le | le
          · exact Classical.byContradiction fun notAbove =>
              different (String.le_antisymm (String.not_lt.mp notAbove) le)
          · exact absurd (String.le_antisymm le (String.not_lt.mp notBelow)) different
        · exact first entry member

theorem Ascending.erase {key : String} {entries : List (String × α)} (h : Ascending entries) :
    Ascending (erase key entries) := by
  induction entries with
  | nil => exact h
  | cons head rest ih =>
    have tail := (List.pairwise_cons.mp h).2
    unfold Entries.erase
    split
    · exact ih tail
    · exact List.pairwise_cons.mpr
        ⟨fun entry member => (List.pairwise_cons.mp h).1 entry (mem_of_mem_erase member), ih tail⟩

theorem get?_insert (key other : String) (value : α) (entries : List (String × α)) :
    get? other (insert key value entries) =
      if key = other then some value else get? other entries := by
  induction entries with
  | nil => simp [insert, get?]
  | cons head rest ih =>
    obtain ⟨k, v⟩ := head
    by_cases same : key = other <;> grind [insert, get?]

theorem get?_erase (key other : String) (entries : List (String × α)) :
    get? other (erase key entries) = if key = other then none else get? other entries := by
  induction entries with
  | nil => simp [erase, get?]
  | cons head rest ih => grind [erase, get?]

theorem get?_eq_none {key : String} {entries : List (String × α)}
    (h : ∀ entry ∈ entries, key < entry.1) : get? key entries = none := by
  induction entries with
  | nil => rfl
  | cons head rest ih =>
    have below := h head List.mem_cons_self
    have different : head.1 ≠ key := fun same => String.lt_irrefl key (same ▸ below)
    simp [get?, different, ih fun entry member => h entry (List.mem_cons_of_mem _ member)]

theorem Ascending.get?_of_mem {key : String} {value : α} {entries : List (String × α)}
    (ascending : Ascending entries) (member : (key, value) ∈ entries) :
    get? key entries = some value := by
  induction entries with
  | nil => cases member
  | cons head rest ih =>
    obtain ⟨below, ascending⟩ := List.pairwise_cons.mp ascending
    rcases List.mem_cons.mp member with rfl | member
    · simp [get?]
    · have different : head.1 ≠ key := fun same =>
        String.lt_irrefl head.1 (same ▸ below (key, value) member)
      simpa [get?, different] using ih ascending member

theorem Ascending.ext {left right : List (String × α)} (hl : Ascending left)
    (hr : Ascending right) (same : ∀ key, get? key left = get? key right) : left = right := by
  induction left generalizing right with
  | nil =>
    cases right with
    | nil => rfl
    | cons head rest => simpa [get?] using same head.1
  | cons first left ih =>
    obtain ⟨k, v⟩ := first
    have kFirst := (List.pairwise_cons.mp hl).1
    cases right with
    | nil => simpa [get?] using same k
    | cons head right =>
      obtain ⟨k', v'⟩ := head
      have kFirst' := (List.pairwise_cons.mp hr).1
      have keys : k = k' := by
        refine Classical.byContradiction fun different => ?_
        rcases String.le_total k k' with le | le
        · have below : k < k' := Classical.byContradiction fun notBelow =>
            different (String.le_antisymm le (String.not_lt.mp notBelow))
          have absent : get? k ((k', v') :: right) = none := get?_eq_none fun entry member => by
            rcases List.mem_cons.mp member with rfl | member
            · exact below
            · exact String.lt_trans below (kFirst' entry member)
          have := same k
          rw [absent] at this
          simp [get?] at this
        · have below : k' < k := Classical.byContradiction fun notBelow =>
            different (String.le_antisymm (String.not_lt.mp notBelow) le)
          have absent : get? k' ((k, v) :: left) = none := get?_eq_none fun entry member => by
            rcases List.mem_cons.mp member with rfl | member
            · exact below
            · exact String.lt_trans below (kFirst entry member)
          have := same k'
          rw [absent] at this
          simp [get?] at this
      subst keys
      have values : v = v' := by simpa [get?] using same k
      subst values
      refine congrArg _ (ih (List.pairwise_cons.mp hl).2 (List.pairwise_cons.mp hr).2 fun key => ?_)
      by_cases here : k = key
      · subst here
        rw [get?_eq_none kFirst, get?_eq_none kFirst']
      · simpa [get?, here] using same key

end Entries

/-- A finite map from strings, held as its entries in ascending order of keys. -/
structure SortedMap (α : Type) where
  entries : List (String × α)
  ascending : Entries.Ascending entries
  deriving DecidableEq

namespace SortedMap

variable {α β : Type}

def empty : SortedMap α := ⟨[], List.Pairwise.nil⟩

instance : Inhabited (SortedMap α) := ⟨empty⟩

def get? (map : SortedMap α) (key : String) : Option α := Entries.get? key map.entries

def contains (map : SortedMap α) (key : String) : Bool := (map.get? key).isSome

def isEmpty (map : SortedMap α) : Bool := map.entries.isEmpty

def insert (map : SortedMap α) (key : String) (value : α) : SortedMap α :=
  ⟨Entries.insert key value map.entries, map.ascending.insert⟩

def erase (map : SortedMap α) (key : String) : SortedMap α :=
  ⟨Entries.erase key map.entries, map.ascending.erase⟩

/-- The entries of a list; of two under one key the later. -/
def ofList (entries : List (String × α)) : SortedMap α :=
  entries.foldl (fun map (key, value) => map.insert key value) empty

@[simp] theorem get?_empty (key : String) : (empty : SortedMap α).get? key = none := rfl

theorem get?_insert (map : SortedMap α) (key other : String) (value : α) :
    (map.insert key value).get? other = if key = other then some value else map.get? other :=
  Entries.get?_insert key other value map.entries

theorem get?_erase (map : SortedMap α) (key other : String) :
    (map.erase key).get? other = if key = other then none else map.get? other :=
  Entries.get?_erase key other map.entries

theorem get?_of_mem {map : SortedMap α} {key : String} {value : α}
    (member : (key, value) ∈ map.entries) : map.get? key = some value :=
  map.ascending.get?_of_mem member

theorem ext {left right : SortedMap α} (same : ∀ key, left.get? key = right.get? key) :
    left = right := by
  cases left with
  | mk left hl =>
    cases right with
    | mk right hr =>
      have := hl.ext hr same
      subst this
      rfl

end SortedMap

end AutoscalerOperator
