import Mathlib.Data.List.Forall2
import AutoscalerOperator.Proofs.Storage.Fields

namespace AutoscalerOperator

/-- What the document of a record holds for a field: the last member under its key, or the item in
    its place. -/
def Json.part? (json : Json) (place : Nat) (key : String) : Option Json :=
  match json with
  | .obj members => Entries.get? key members.reverse
  | .arr items => items[place]?
  | _ => none

/-- A value that is read from a part of a document, or the default where there is no such part. -/
def Told {β : Type} [OfJson β] (default : β) (part : Option Json) (value : β) : Prop :=
  match part with
  | some json => ofJson json = .ok value
  | none => value = default

theorem map_eq_ok {α β : Type} {f : α → β} {read : Decoded α} {result : β}
    (mapped : f <$> read = .ok result) : ∃ value, read = .ok value ∧ f value = result := by
  cases read with
  | error e => cases mapped
  | ok value => exact ⟨value, rfl, Except.ok.inj mapped⟩

theorem forall₂_of_list {α : Type} {decoder : Decoder α} {json : Json} {values : List α}
    (read : decoder.list.ofJson json = .ok values) :
    ∃ items, json = .arr items ∧
      List.Forall₂ (fun item value => decoder.ofJson item = .ok value) items values := by
  cases json with
  | arr items =>
    refine ⟨items, rfl, ?_⟩
    change items.mapM decoder.ofJson = _ at read
    induction items generalizing values with
    | nil => cases read; exact .nil
    | cons item items ih =>
      rw [List.mapM_cons] at read
      cases first : decoder.ofJson item with
      | error e => rw [first] at read; cases read
      | ok value =>
        cases rest : items.mapM decoder.ofJson with
        | error e => rw [first, rest] at read; cases read
        | ok values =>
          rw [first, rest] at read
          cases read
          exact .cons first (ih rest)
  | _ => cases read

theorem read_of_sortedMap {α : Type} {decoder : Decoder α} {json : Json} {map : SortedMap α}
    (read : decoder.sortedMap.ofJson json = .ok map) :
    ∀ entry ∈ map.entries, ∃ json, decoder.ofJson json = .ok entry.2 := by
  cases json with
  | obj members =>
    refine foldlM_keeps
      (P := fun map : SortedMap α => ∀ entry ∈ map.entries, ∃ json, decoder.ofJson json = .ok entry.2)
      (fun map (key, json) next kept filled => ?_) (List.forall_mem_nil _) read
    obtain ⟨value, told, rfl⟩ := map_eq_ok filled
    intro entry member
    rcases Entries.mem_of_mem_insert member with rfl | member
    · exact ⟨json, told⟩
    · exact kept entry member
  | _ => cases read

theorem forall₂_right {α β : Type} {relation : α → β → Prop} {left : List α} {right : List β}
    (related : List.Forall₂ relation left right) : ∀ b ∈ right, ∃ a, relation a b := by
  induction related with
  | nil => exact nofun
  | cons first _ ih => exact List.forall_mem_cons.mpr ⟨⟨_, first⟩, ih⟩

theorem Told.optional {β : Type} [OfJson β] {part : Option Json} {value : Option β}
    (told : Told none part value) :
    Option.Rel (fun json value => ofJson json = .ok value) (part.filter (· ≠ .null)) value := by
  cases part with
  | none =>
    cases told
    exact .none
  | some json =>
    have read : (OfJson.decoder : Decoder β).optional.ofJson json = .ok value := told
    by_cases null : json = .null
    · subst null
      cases read
      exact .none
    · rw [optional_ofJson _ null] at read
      obtain ⟨value, there, rfl⟩ := map_eq_ok read
      rw [Option.filter_some, if_pos (decide_eq_true null)]
      exact .some there

theorem Told.of_some {β : Type} [OfJson β] {part : Option Json} {value : β}
    (told : Told none part (some value)) : ∃ json, ofJson json = .ok value := by
  have there := told.optional
  generalize part.filter (· ≠ .null) = part at there
  cases there with
  | some read => exact ⟨_, read⟩

theorem Entries.get?_append {α : Type} (key : String) (first second : List (String × α)) :
    get? key (first ++ second) = (get? key first).or (get? key second) := by
  induction first with
  | nil => rfl
  | cons head first ih =>
    by_cases here : head.1 = key
    · simp [get?, here]
    · simpa [get?, here] using ih

theorem Entries.isSome_get?_reverse {α : Type} {key : String} {entries : List (String × α)}
    (member : key ∈ entries.map (·.1)) : (get? key entries.reverse).isSome := by
  induction entries with
  | nil => cases member
  | cons head entries ih =>
    rw [List.reverse_cons, get?_append, Option.isSome_or, Bool.or_eq_true]
    rcases List.mem_cons.mp member with rfl | member
    · exact .inr (by simp [get?])
    · exact .inl (ih member)

namespace Field

variable {ρ β : Type} {fields : List (Field ρ)} {start record next : ρ} {key : String}
  {presence : Presence}

def Keeps (field : Field ρ) (view : ρ → β) : Prop :=
  ∀ json change, field.value.ofJson json = .ok change → ∀ record, view (change record) = view record

theorem keeps_put {γ : Type} [OfJson γ] {set : ρ → γ → ρ} {view : ρ → β}
    (kept : ∀ record value, view (set record value) = view record) :
    (put presence key set).Keeps view := by
  intro json change told record
  obtain ⟨value, -, rfl⟩ := map_eq_ok told
  exact kept record value

theorem unseen {γ : Type} [OfJson γ] {other : String} {set : ρ → γ → ρ} {view : ρ → β}
    (kept : ∀ record value, view (set record value) = view record) :
    (put presence other set).key ≠ key → (put presence other set).Keeps view :=
  fun _ => keeps_put kept

theorem seen {field : Field ρ} {view : ρ → β} (here : field.key = key) :
    field.key ≠ key → field.Keeps view := absurd here

theorem fill_eq_ok {json : Json} (filled : fill fields start key json = .ok next) :
    (find? fields key = none ∧ next = start) ∨
      ∃ field change, find? fields key = some field ∧ field.value.ofJson json = .ok change ∧
        next = change start := by
  unfold fill at filled
  cases found : find? fields key with
  | none =>
    simp only [found] at filled
    exact .inl ⟨rfl, (Except.ok.inj filled).symm⟩
  | some field =>
    simp only [found] at filled
    obtain ⟨change, told, same⟩ := map_eq_ok filled
    exact .inr ⟨field, change, rfl, told, same.symm⟩

theorem record_eq_ok {type : String} {members : List (String × Json)}
    (read : (Decoder.record type start fields).ofJson (.obj members) = .ok record) :
    members.foldlM (fun record (key, json) => fill fields record key json) start = .ok record ∧
      requireAll fields (members.map (·.1)) = .ok () := by
  change (members.foldlM _ start >>= fun record =>
    requireAll fields (members.map (·.1)) >>= fun _ => pure record) = _ at read
  cases filled : members.foldlM (fun record (key, json) => fill fields record key json) start with
  | error e => rw [filled] at read; cases read
  | ok filledRecord =>
    rw [filled] at read
    change (requireAll fields (members.map (·.1)) >>= fun _ => pure filledRecord) = _ at read
    cases required : requireAll fields (members.map (·.1)) with
    | error e => rw [required] at read; cases read
    | ok =>
      rw [required] at read
      cases read
      exact ⟨rfl, rfl⟩

theorem find?_of_mem (distinct : (fields.map (·.key)).Nodup) {field : Field ρ}
    (member : field ∈ fields) : find? fields field.key = some field := by
  induction fields with
  | nil => cases member
  | cons head fields ih =>
    obtain ⟨apart, distinct⟩ := List.nodup_cons.mp distinct
    rcases List.mem_cons.mp member with rfl | member
    · simp [find?]
    · have different : head.key ≠ field.key := fun same =>
        apart (List.mem_map.mpr ⟨field, member, same.symm⟩)
      simpa [find?, different] using ih distinct member

theorem required_of_requireAll {keys : List String} (required : requireAll fields keys = .ok ()) :
    ∀ field ∈ fields, field.presence = .always → field.key ∈ keys := by
  unfold requireAll at required
  split at required
  case h_1 => cases required
  case h_2 none =>
    intro field member always
    have kept := List.find?_eq_none.mp none field member
    simpa [always] using kept

theorem fillItems_nil {wanted : String} {count index : Nat}
    (filled : fillItems wanted count index fields [] start = .ok record) :
    record = start ∧ ∀ field ∈ fields, field.presence = .optional := by
  induction fields generalizing index with
  | nil => exact ⟨(Except.ok.inj filled).symm, nofun⟩
  | cons head fields ih =>
    unfold fillItems at filled
    split at filled
    case isTrue optional =>
      obtain ⟨same, rest⟩ := ih filled
      exact ⟨same, List.forall_mem_cons.mpr ⟨optional, rest⟩⟩
    case isFalse => cases filled

theorem fillItems_cons {wanted : String} {count index : Nat} {field : Field ρ} {item : Json}
    {items : List Json}
    (filled : fillItems wanted count index (field :: fields) (item :: items) start = .ok record) :
    ∃ change, field.value.ofJson item = .ok change ∧
      fillItems wanted count (index + 1) fields items (change start) = .ok record := by
  unfold fillItems at filled
  cases told : field.value.ofJson item with
  | error e => simp only [told] at filled; cases filled
  | ok change => simp only [told] at filled; exact ⟨change, rfl, filled⟩

theorem keeps_items {wanted : String} {count index : Nat} {items : List Json}
    {view : ρ → β} (kept : ∀ field ∈ fields, field.Keeps view)
    (filled : fillItems wanted count index fields items start = .ok record) :
    view record = view start := by
  induction fields generalizing index items start with
  | nil =>
    cases items with
    | nil => cases filled; rfl
    | cons => cases filled
  | cons field fields ih =>
    cases items with
    | nil => rw [(fillItems_nil filled).1]
    | cons item items =>
      obtain ⟨change, told, filled⟩ := fillItems_cons filled
      obtain ⟨first, rest⟩ := List.forall_mem_cons.mp kept
      rw [ih rest filled, first item change told]

section

variable [OfJson β] {set : ρ → β → ρ} {view : ρ → β}

/-- The fields of a record, one of which is seen by a view that the others do not change. -/
structure Viewed (fields : List (Field ρ)) (place : Nat) (presence : Presence) (key : String)
    (set : ρ → β → ρ) (view : ρ → β) : Prop where
  here : fields[place]? = some (put presence key set)
  distinct : (fields.map (·.key)).Nodup
  view_set : ∀ record value, view (set record value) = value
  others : fields.Forall fun field => field.key ≠ key → field.Keeps view

theorem Viewed.keeps {place : Nat} (viewed : Viewed fields place presence key set view)
    {field : Field ρ} (member : field ∈ fields) (other : field.key ≠ key) : field.Keeps view :=
  List.forall_iff_forall_mem.mp viewed.others field member other

theorem told_put {json : Json} {change : ρ → ρ}
    (told : (put presence key set).value.ofJson json = .ok change)
    (view_set : ∀ record value, view (set record value) = value) :
    ofJson json = .ok (view (change record)) := by
  obtain ⟨value, read, rfl⟩ := map_eq_ok told
  rw [view_set]
  exact read

variable {place : Nat}

theorem Viewed.told_fill (viewed : Viewed fields place presence key set view)
    {other : String} {json : Json} (filled : fill fields start other json = .ok next) :
    if other = key then ofJson json = .ok (view next) else view next = view start := by
  have known : find? fields key = some (put presence key set) :=
    find?_of_mem viewed.distinct (List.mem_of_getElem? viewed.here)
  obtain ⟨unknown, rfl⟩ | ⟨field, change, found, told, rfl⟩ := fill_eq_ok filled
  · have there : other ≠ key := by
      rintro rfl
      cases known.symm.trans unknown
    rw [if_neg there]
  · by_cases here : other = key
    · subst here
      cases known.symm.trans found
      rw [if_pos rfl]
      exact told_put told viewed.view_set
    · have named : field.key = other := by simpa using List.find?_some found
      rw [if_neg here]
      exact viewed.keeps (List.mem_of_find?_eq_some found) (named ▸ here) json change told start

theorem Viewed.told_members (viewed : Viewed fields place presence key set view)
    {members : List (String × Json)}
    (filled : members.foldlM (fun record (key, json) => fill fields record key json) start =
      .ok record) :
    Told (view start) (Entries.get? key members.reverse) (view record) := by
  induction members generalizing start with
  | nil => cases filled; rfl
  | cons head members ih =>
    rw [List.foldlM_cons] at filled
    cases first : fill fields start head.1 head.2 with
    | error e => simp only [first] at filled; cases filled
    | ok next =>
      simp only [first] at filled
      have rest := ih filled
      have told := viewed.told_fill first
      rw [List.reverse_cons, Entries.get?_append]
      cases last : Entries.get? key members.reverse with
      | some json => rw [last] at rest; exact rest
      | none =>
        rw [last] at rest
        have same : view record = view next := rest
        by_cases here : head.1 = key
        · rw [if_pos here] at told
          simpa [Entries.get?, here, Told, same] using told
        · rw [if_neg here] at told
          simpa [Entries.get?, here, Told, same] using told

theorem told_items {wanted : String} {count index : Nat} {items : List Json}
    (here : fields[place]? = some (put presence key set))
    (view_set : ∀ record value, view (set record value) = value)
    (others : ∀ other field, other ≠ place → fields[other]? = some field → field.Keeps view)
    (filled : fillItems wanted count index fields items start = .ok record) :
    Told (view start) items[place]? (view record) ∧
      (presence ≠ .optional → items[place]?.isSome) := by
  induction fields generalizing index items start place with
  | nil => cases here
  | cons field fields ih =>
    cases items with
    | nil =>
      obtain ⟨rfl, optional⟩ := fillItems_nil filled
      exact ⟨rfl, fun wanted => absurd (optional _ (List.mem_of_getElem? here)) wanted⟩
    | cons item items =>
      obtain ⟨change, told, rest⟩ := fillItems_cons filled
      cases place with
      | zero =>
        cases here
        have kept : ∀ field ∈ fields, field.Keeps view := by
          intro field member
          obtain ⟨place, found⟩ := List.mem_iff_getElem?.mp member
          exact others (place + 1) field (Nat.succ_ne_zero _) found
        refine ⟨?_, fun _ => rfl⟩
        rw [keeps_items kept rest]
        exact told_put told view_set
      | succ place =>
        have first : field.Keeps view := others 0 field (Nat.succ_ne_zero _).symm rfl
        have later := ih here (fun other field apart found =>
          others (other + 1) field (fun same => apart (Nat.succ.inj same)) found) rest
        rwa [first item change told] at later

theorem Viewed.others_of_place (viewed : Viewed fields place presence key set view) {other : Nat}
    {field : Field ρ} (apart : other ≠ place) (found : fields[other]? = some field) :
    field.Keeps view := by
  refine viewed.keeps (List.mem_of_getElem? found) fun same => apart ?_
  obtain ⟨within, -⟩ := List.getElem?_eq_some_iff.mp found
  have keys : (fields.map (·.key))[other]? = (fields.map (·.key))[place]? := by
    rw [List.getElem?_map, List.getElem?_map, found, viewed.here]
    exact congrArg some same
  exact (List.getElem?_inj (by simpa using within) viewed.distinct).mp keys

theorem told_record {type : String} {json : Json}
    (read : (Decoder.record type start fields).ofJson json = .ok record)
    (viewed : Viewed fields place presence key set view) :
    Told (view start) (json.part? place key) (view record) ∧
      (presence = .always → (json.part? place key).isSome) := by
  cases json with
  | obj members =>
    obtain ⟨filled, required⟩ := record_eq_ok read
    refine ⟨viewed.told_members filled, fun always => ?_⟩
    refine Entries.isSome_get?_reverse ?_
    exact required_of_requireAll required _ (List.mem_of_getElem? viewed.here) always
  | arr items =>
    obtain ⟨told, there⟩ := told_items viewed.here viewed.view_set
      (fun _ _ => viewed.others_of_place) read
    exact ⟨told, fun always => there (always ▸ nofun)⟩
  | _ => cases read

end

end Field

end AutoscalerOperator
