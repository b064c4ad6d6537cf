import AutoscalerOperator.Proofs.Quantity.Compared

namespace AutoscalerOperator

namespace Json

/-- A document in which no member of an object is null, an empty array or an empty object, at any
    depth. -/
inductive Tidy : Json → Prop
  | null : Tidy .null
  | bool (value : Bool) : Tidy (.bool value)
  | int (value : Int) : Tidy (.int value)
  | float (value : Double) : Tidy (.float value)
  | str (text : String) : Tidy (.str text)
  | arr {items : List Json} (each : ∀ item ∈ items, Tidy item) : Tidy (.arr items)
  | obj {members : List (String × Json)}
    (said : ∀ entry ∈ members, entry.2 ≠ .null ∧ entry.2 ≠ .arr [] ∧ entry.2 ≠ .obj [])
    (each : ∀ entry ∈ members, Tidy entry.2) : Tidy (.obj members)

variable {place : Place} {json form : Json}

theorem Place.canonicalText_canonicalText (place : Place) (text : String) :
    place.canonicalText (place.canonicalText text) = place.canonicalText text := by
  unfold Place.canonicalText
  split
  · exact congrArg Quantity.text (Quantity.canonical_canonical ⟨text⟩)
  · rfl

theorem ne_of_normal? (left : json.normal? place = some form) :
    form ≠ .null ∧ form ≠ .arr [] ∧ form ≠ .obj [] := by
  cases json with
  | null => cases left
  | bool | int | float | str => cases left; exact ⟨nofun, nofun, nofun⟩
  | arr items =>
    obtain ⟨filled, rfl⟩ := arrayOrNone_eq_some.mp left
    exact ⟨nofun, fun empty => filled (Json.arr.inj empty), nofun⟩
  | obj members =>
    obtain ⟨filled, rfl⟩ := objectOrNone_eq_some.mp left
    exact ⟨nofun, nofun, fun empty => filled (Json.obj.inj empty)⟩

theorem normal_normal
    (again : ∀ form, json.normal? {} = some form → form.normal? {} = some form) :
    json.normal.normal = json.normal := by
  unfold normal
  cases left : json.normal? {} with
  | none => rfl
  | some form => simp [again form left]

theorem normal?_of_normal? (left : json.normal? place = some form) :
    form.normal? place = some form := by
  induction json using induct generalizing place form with
  | null => cases left
  | bool | int => cases left; rfl
  | float value =>
    obtain rfl := Option.some.inj left
    rw [normal?, Double.plainZero_plainZero]
  | str text =>
    obtain rfl := Option.some.inj left
    rw [normal?, Place.canonicalText_canonicalText]
  | arr items ih =>
    rw [normal?_arr] at left
    obtain ⟨filled, rfl⟩ := arrayOrNone_eq_some.mp left
    have settled : (items.map normal).map normal = items.map normal := by
      rw [List.map_map]
      exact List.map_congr_left fun item member => normal_normal fun _ => ih item member
    rw [normal?_arr, settled]
    exact arrayOrNone_eq_some.mpr ⟨filled, rfl⟩
  | obj members ih =>
    rw [normal?] at left
    obtain ⟨filled, rfl⟩ := objectOrNone_eq_some.mp left
    have settled : normalMembers place (normalMembers place members) =
        normalMembers place members := by
      refine (ascending_normalMembers place _).ext (ascending_normalMembers place _) fun key => ?_
      rw [get?_normalMembers, get?_normalMembers]
      cases found : Entries.get? key members with
      | none => rfl
      | some json =>
        rw [Option.bind_some]
        cases said : json.normal? (place.member key) with
        | none => rfl
        | some form => exact ih key json found said
    rw [normal?, settled]
    exact objectOrNone_eq_some.mpr ⟨filled, rfl⟩

theorem tidy_of_normal? (left : json.normal? place = some form) : form.Tidy := by
  induction json using induct generalizing place form with
  | null => cases left
  | bool value => cases left; exact .bool value
  | int value => cases left; exact .int value
  | float | str => cases left; constructor
  | arr items ih =>
    rw [normal?_arr] at left
    obtain ⟨-, rfl⟩ := arrayOrNone_eq_some.mp left
    refine .arr fun item member => ?_
    obtain ⟨source, listed, rfl⟩ := List.mem_map.mp member
    unfold normal
    cases said : source.normal? {} with
    | none => exact .null
    | some form => exact ih source listed said
  | obj members ih =>
    rw [normal?] at left
    obtain ⟨-, rfl⟩ := objectOrNone_eq_some.mp left
    -- Each member that is left is what is left of the member under its key.
    have origin : ∀ entry ∈ normalMembers place members, ∃ json,
        Entries.get? entry.1 members = some json ∧
          json.normal? (place.member entry.1) = some entry.2 := by
      intro entry member
      have held := (ascending_normalMembers place members).get?_of_mem member
      rw [get?_normalMembers] at held
      exact Option.bind_eq_some_iff.mp held
    refine .obj (fun entry member => ?_) fun entry member => ?_
    · obtain ⟨json, -, said⟩ := origin entry member
      exact ne_of_normal? said
    · obtain ⟨json, found, said⟩ := origin entry member
      exact ih entry.1 json found said

theorem semanticEq_normal (json : Json) : semanticEq json json.normal = true := by
  refine semanticEq_iff.mpr ?_
  change json.normal? {} = json.normal.normal? {}
  unfold normal
  cases left : json.normal? {} with
  | none => rfl
  | some form => exact (normal?_of_normal? left).symm

/-- The form in which documents are compared is canonical: it is its own form, no member of an
    object in it says nothing, and it says what the document says. A document of which nothing is
    left says what null says. So the form may stand for the document in any comparison. -/
theorem normal_form_canonical (json : Json) :
    (∀ form, json.normal? {} = some form →
      form.normal? {} = some form ∧ form.Tidy ∧ semanticEq json form = true) ∧
    (json.normal? {} = none → semanticEq json .null = true) ∧
    ∀ other, semanticEq json.normal other = semanticEq json other ∧
      semanticEq other json.normal = semanticEq other json := by
  have equal := semanticEq_normal json
  refine ⟨fun form left => ⟨normal?_of_normal? left, tidy_of_normal? left, ?_⟩, fun left => ?_,
    fun other => ⟨(semanticEq_congr_left equal other).symm, ?_⟩⟩
  · rwa [normal, left] at equal
  · rwa [normal, left] at equal
  · rw [semanticEq_comm other, semanticEq_comm other, semanticEq_congr_left equal]

/-- Amounts in nested maps, a member that vanishes because what it holds does, and an item that says
    nothing but keeps its place. -/
def untidy : Json := .obj [
  ("items", .arr [.obj [("none", .null)], .int 1]),
  ("limits", .obj [("limits", .obj [("cpu", .str "1.5")]), ("sizeLimit", .str "1Ki")]),
  ("void", .obj [("empty", .arr [])])]

def tidied : Json := .obj [
  ("items", .arr [.null, .int 1]),
  ("limits", .obj [("limits", .obj [("cpu", .str "1500000000n")]),
    ("sizeLimit", .str "1024000000000n")])]

theorem untidy_form_canonical :
    untidy.normal? {} = some tidied ∧ tidied.normal? {} = some tidied ∧ tidied.Tidy ∧
      semanticEq untidy tidied = true := by
  have left : untidy.normal? {} = some tidied := by decide
  exact ⟨left, (normal_form_canonical untidy).1 tidied left⟩

end Json

end AutoscalerOperator
