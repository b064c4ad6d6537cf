import AutoscalerOperator.Proofs.Json.Congruence
import AutoscalerOperator.Proofs.Quantity.Canonical

namespace AutoscalerOperator

namespace Entries

variable {α : Type} {key : String} {value : α} {entries : List (String × α)}

theorem mem_of_get? (found : get? key entries = some value) : (key, value) ∈ entries := by
  induction entries with
  | nil => cases found
  | cons head rest ih =>
    obtain ⟨other, first⟩ := head
    rw [get?] at found
    split at found
    · rename_i same
      obtain rfl := Option.some.inj found
      rw [same]
      exact List.mem_cons_self
    · exact List.mem_cons_of_mem _ (ih found)

theorem eq_nil_iff : entries = [] ↔ ∀ key, get? key entries = none := by
  constructor
  · rintro rfl key
    rfl
  · intro empty
    cases entries with
    | nil => rfl
    | cons head rest => simpa [get?] using empty head.1

end Entries

namespace Json

theorem sizeOf_item_lt {items : List Json} {item : Json} (member : item ∈ items) :
    sizeOf item < sizeOf (Json.arr items) := by
  have smaller := List.sizeOf_lt_of_mem member
  simp only [Json.arr.sizeOf_spec]
  omega

theorem sizeOf_member_lt {members : List (String × Json)} {key : String} {json : Json}
    (found : Entries.get? key members = some json) : sizeOf json < sizeOf (Json.obj members) := by
  have smaller := List.sizeOf_lt_of_mem (Entries.mem_of_get? found)
  simp only [Prod.mk.sizeOf_spec] at smaller
  simp only [Json.obj.sizeOf_spec]
  omega

/-- Induction over a document, where the items of an array and what an object holds under its keys
    come before it. -/
theorem induct {motive : Json → Prop} (null : motive .null) (bool : ∀ value, motive (.bool value))
    (int : ∀ value, motive (.int value)) (float : ∀ value, motive (.float value))
    (str : ∀ text, motive (.str text))
    (arr : ∀ items, (∀ item ∈ items, motive item) → motive (.arr items))
    (obj : ∀ members, (∀ key json, Entries.get? key members = some json → motive json) →
      motive (.obj members)) :
    ∀ json, motive json
  | .null => null
  | .bool value => bool value
  | .int value => int value
  | .float value => float value
  | .str text => str text
  | .arr items => arr items fun item _ => induct null bool int float str arr obj item
  | .obj members => obj members fun _ json _ => induct null bool int float str arr obj json
termination_by json => sizeOf json
decreasing_by
  · exact sizeOf_item_lt ‹_›
  · exact sizeOf_member_lt ‹_›

/-- A document that says nothing: null, an empty array, or an object that holds nothing but such
    documents. -/
inductive Noise : Json → Prop
  | null : Noise .null
  | array : Noise (.arr [])
  | object {members : List (String × Json)}
    (each : ∀ key json, Entries.get? key members = some json → Noise json) : Noise (.obj members)

/-- The place of a member: texts are amounts under `sizeLimit`, and directly below `limits`,
    `requests` and `overhead`. -/
def Place.below (place : Place) (key : String) : Place where
  amount := place.amounts || key = "sizeLimit"
  amounts := key = "limits" || key = "requests" || key = "overhead"

def memberOrNull (key : String) (members : List (String × Json)) : Json :=
  (Entries.get? key members).getD .null

/-- Whether two documents at a place mean the same. -/
inductive SameMeaning : Place → Json → Json → Prop
  | noise {place : Place} {left right : Json} (empty : left.Noise) (void : right.Noise) :
    SameMeaning place left right
  | bool {place : Place} (value : Bool) : SameMeaning place (.bool value) (.bool value)
  | int {place : Place} (value : Int) : SameMeaning place (.int value) (.int value)
  | float {place : Place} {left right : Double} (equal : left.plainZero = right.plainZero) :
    SameMeaning place (.float left) (.float right)
  | text {place : Place} (plain : place.amount = false) (text : String) :
    SameMeaning place (.str text) (.str text)
  | amount {place : Place} {left right : String} (measured : place.amount = true)
    (same : Quantity.SameAmount ⟨left⟩ ⟨right⟩) : SameMeaning place (.str left) (.str right)
  | array {place : Place} {left right : List Json} (filled : left ≠ [])
    (lengths : left.length = right.length)
    (items : ∀ (i : Nat) (first second : Json), left[i]? = some first → right[i]? = some second →
      SameMeaning {} first second) :
    SameMeaning place (.arr left) (.arr right)
  | object {place : Place} {left right : List (String × Json)} (tells : ¬(Json.obj left).Noise)
    (speaks : ¬(Json.obj right).Noise)
    (members : ∀ key,
      SameMeaning (place.below key) (memberOrNull key left) (memberOrNull key right)) :
    SameMeaning place (.obj left) (.obj right)

variable {place : Place} {json : Json}

theorem Place.member_eq_below (place : Place) (key : String) :
    place.member key = place.below key := by
  simp [Place.member, Place.below, Place.amountFields, Place.amountMaps, Bool.or_assoc]

theorem arrayOrNone_eq_none {items : List Json} : arrayOrNone items = none ↔ items = [] := by
  cases items <;> simp [arrayOrNone]

theorem objectOrNone_eq_none {members : List (String × Json)} :
    objectOrNone members = none ↔ members = [] := by
  cases members <;> simp [objectOrNone]

theorem arrayOrNone_eq_some {items : List Json} :
    arrayOrNone items = some json ↔ items ≠ [] ∧ json = .arr items := by
  cases items <;> simp [arrayOrNone, eq_comm]

theorem objectOrNone_eq_some {members : List (String × Json)} :
    objectOrNone members = some json ↔ members ≠ [] ∧ json = .obj members := by
  cases members <;> simp [objectOrNone, eq_comm]

theorem normal?_member (place : Place) (key : String) (members : List (String × Json)) :
    (memberOrNull key members).normal? (place.below key) =
      Entries.get? key (normalMembers place members) := by
  rw [get?_normalMembers, Place.member_eq_below, memberOrNull]
  cases Entries.get? key members <;> rfl

theorem normal?_arr (place : Place) (items : List Json) :
    normal? place (.arr items) = arrayOrNone (items.map normal) := by
  rw [normal?, normalItems_eq_map]

theorem normal?_eq_none_iff : json.normal? place = none ↔ json.Noise := by
  induction json using induct generalizing place with
  | null => exact ⟨fun _ => .null, fun _ => rfl⟩
  | bool | int | float | str => exact ⟨nofun, nofun⟩
  | arr items ih =>
    rw [normal?_arr, arrayOrNone_eq_none, List.map_eq_nil_iff]
    constructor
    · rintro rfl
      exact .array
    · rintro ⟨⟩
      rfl
  | obj members ih =>
    rw [normal?, objectOrNone_eq_none, Entries.eq_nil_iff]
    constructor
    · intro empty
      refine .object fun key json found => ?_
      have silent := empty key
      rw [get?_normalMembers, found] at silent
      exact (ih key json found).mp silent
    · rintro ⟨⟩ key
      rename_i each
      rw [get?_normalMembers]
      cases found : Entries.get? key members with
      | none => rfl
      | some json => exact (ih key json found).mpr (each key json found)

inductive HasForm (place : Place) : Json → Json → Prop
  | bool (value : Bool) : HasForm place (.bool value) (.bool value)
  | int (value : Int) : HasForm place (.int value) (.int value)
  | float {value form : Double} (plain : value.plainZero = form) :
    HasForm place (.float value) (.float form)
  | str {text form : String} (canonical : place.canonicalText text = form) :
    HasForm place (.str text) (.str form)
  | arr {items forms : List Json} (filled : items ≠ []) (each : items.map normal = forms) :
    HasForm place (.arr items) (.arr forms)
  | obj {members forms : List (String × Json)} (each : normalMembers place members = forms) :
    HasForm place (.obj members) (.obj forms)

theorem hasForm_of_normal? {form : Json} (said : json.normal? place = some form) :
    HasForm place json form := by
  cases json with
  | null => cases said
  | bool value => cases said; exact .bool value
  | int value => cases said; exact .int value
  | float value => cases said; exact .float rfl
  | str text => cases said; exact .str rfl
  | arr items =>
    rw [normal?_arr] at said
    obtain ⟨filled, rfl⟩ := arrayOrNone_eq_some.mp said
    exact .arr (fun empty => filled (List.map_eq_nil_iff.mpr empty)) rfl
  | obj members =>
    rw [normal?] at said
    obtain ⟨-, rfl⟩ := objectOrNone_eq_some.mp said
    exact .obj rfl

theorem normal?_of_normal_eq {left right : Json} (same : left.normal = right.normal) :
    left.normal? {} = right.normal? {} := by
  have speaking {json : Json} : json.normal? {} ≠ some .null :=
    fun said => nomatch hasForm_of_normal? said
  unfold normal at same
  cases first : left.normal? {} with
  | none =>
    cases second : right.normal? {} with
    | none => rfl
    | some form =>
      rw [first, second] at same
      obtain rfl : Json.null = form := same
      exact absurd second speaking
  | some form =>
    cases second : right.normal? {} with
    | none =>
      rw [first, second] at same
      obtain rfl : form = Json.null := same
      exact absurd first speaking
    | some other =>
      rw [first, second] at same
      exact congrArg some same

theorem canonicalText_eq_iff {left right : String} (measured : place.amount = true) :
    place.canonicalText left = place.canonicalText right ↔ Quantity.SameAmount ⟨left⟩ ⟨right⟩ := by
  rw [← Quantity.canonical_eq_iff, Quantity.mk.injEq]
  simp only [Place.canonicalText, measured, if_true]

theorem canonicalText_of_plain (plain : place.amount = false) (text : String) :
    place.canonicalText text = text := by
  rw [Place.canonicalText, if_neg (by simp [plain])]

theorem SameMeaning.normal?_eq {left right : Json} (same : SameMeaning place left right) :
    left.normal? place = right.normal? place := by
  induction same with
  | noise empty void => rw [normal?_eq_none_iff.mpr empty, normal?_eq_none_iff.mpr void]
  | bool | int => rfl
  | float equal => rw [normal?, normal?, equal]
  | text plain text => rfl
  | amount measured same => rw [normal?, normal?, (canonicalText_eq_iff measured).mpr same]
  | @array place left right filled lengths items ih =>
    have forms : left.map normal = right.map normal := by
      refine List.ext_getElem (by simp [lengths]) fun i below above => ?_
      rw [List.length_map] at below above
      rw [List.getElem_map, List.getElem_map, normal, normal,
        ih i _ _ (List.getElem?_eq_getElem below) (List.getElem?_eq_getElem above)]
    rw [normal?_arr, normal?_arr, forms]
  | @object place left right tells speaks members ih =>
    refine normal?_obj_congr fun key => ?_
    have member := ih key
    rw [normal?_member, normal?_member] at member
    rw [← get?_normalMembers, ← get?_normalMembers, member]

theorem sameMeaning_of_normal? {left right : Json}
    (same : left.normal? place = right.normal? place) : SameMeaning place left right := by
  induction left using induct generalizing place right with
  | null => exact .noise .null (normal?_eq_none_iff.mp same.symm)
  | bool value =>
    cases hasForm_of_normal? same.symm
    exact .bool value
  | int value =>
    cases hasForm_of_normal? same.symm
    exact .int value
  | float value =>
    cases hasForm_of_normal? same.symm with
    | float plain => exact .float plain.symm
  | str text =>
    cases hasForm_of_normal? same.symm with
    | @str other _ texts =>
      cases measured : place.amount with
      | true => exact .amount measured ((canonicalText_eq_iff measured).mp texts.symm)
      | false =>
        rw [canonicalText_of_plain measured, canonicalText_of_plain measured] at texts
        rw [texts]
        exact .text measured text
  | arr items ih =>
    cases said : normal? place (.arr items) with
    | none => exact .noise (normal?_eq_none_iff.mp said) (normal?_eq_none_iff.mp (same ▸ said))
    | some form =>
      cases hasForm_of_normal? said with
      | @arr _ forms filled first =>
        cases hasForm_of_normal? (same ▸ said) with
        | @arr others _ _ second =>
          have equal : items.map normal = others.map normal := first.trans second.symm
          have lengths : items.length = others.length := by
            simpa only [List.length_map] using congrArg List.length equal
          refine .array filled lengths fun i one other here there => ?_
          have forms := congrArg (·[i]?) equal
          simp only [List.getElem?_map, here, there, Option.map_some, Option.some.injEq] at forms
          exact ih one (List.mem_of_getElem? here) (normal?_of_normal_eq forms)
  | obj members ih =>
    cases said : normal? place (.obj members) with
    | none => exact .noise (normal?_eq_none_iff.mp said) (normal?_eq_none_iff.mp (same ▸ said))
    | some form =>
      cases hasForm_of_normal? said with
      | @obj _ forms first =>
        cases hasForm_of_normal? (same ▸ said) with
        | @obj others _ second =>
          have speaking {members : List (String × Json)}
              (said : normal? place (.obj members) = some (.obj forms)) :
              ¬(Json.obj members).Noise := fun noise => by
            cases said.symm.trans (normal?_eq_none_iff.mpr noise)
          refine .object (speaking said) (speaking (same ▸ said)) fun key => ?_
          have equal : (memberOrNull key members).normal? (place.below key) =
              (memberOrNull key others).normal? (place.below key) := by
            rw [normal?_member, normal?_member, first, second]
          -- What the left object does not hold is null, and then the right one says nothing there.
          cases found : Entries.get? key members with
          | none =>
            have missing : memberOrNull key members = .null := by rw [memberOrNull, found]; rfl
            rw [missing] at equal ⊢
            exact .noise .null (normal?_eq_none_iff.mp equal.symm)
          | some json =>
            have there : memberOrNull key members = json := by rw [memberOrNull, found]; rfl
            rw [there] at equal ⊢
            exact ih key json found equal

/-- Two documents count as equal exactly if they mean the same. -/
theorem semanticEq_iff_sameMeaning (left right : Json) :
    semanticEq left right = true ↔ SameMeaning {} left right := by
  rw [semanticEq_iff]
  exact ⟨sameMeaning_of_normal?, SameMeaning.normal?_eq⟩

end Json

end AutoscalerOperator
