import AutoscalerOperator.Proofs.Storage.Storable

namespace AutoscalerOperator

namespace Field

variable {ρ β : Type} {fields : List (Field ρ)} {members : List (String × Option Json)}
  {start next final : ρ} {key : String} {presence : Presence}

/-- The members that are there fill a record, one after the other. -/
def Filled (fields : List (Field ρ)) (members : List (String × Option Json)) (start final : ρ) :
    Prop :=
  (members.filterMap fun (key, value) => value.map (key, ·)).foldlM
    (fun record (key, json) => fill fields record key json) start = .ok final

theorem Filled.nil : Filled fields [] final final := rfl

theorem Filled.absent (rest : Filled fields members start final) :
    Filled fields ((key, none) :: members) start final := rest

theorem Filled.present {json : Json} (filled : fill fields start key json = .ok next)
    (rest : Filled fields members next final) :
    Filled fields ((key, some json) :: members) start final := by
  change (fill fields start key json >>= fun record => _) = _
  rw [filled]
  exact rest

theorem fill_put [OfJson β] {value : β} {set : ρ → β → ρ} {json : Json}
    (found : find? fields key = some (.put presence key set)) (read : ofJson json = .ok value) :
    fill fields start key json = .ok (set start value) := by
  have read : (OfJson.decoder : Decoder β).ofJson json = .ok value := read
  rw [fill, found]
  change (· start) <$> (fun value record => set record value) <$>
    (OfJson.decoder : Decoder β).ofJson json = _
  rw [read]
  rfl

section

variable [ToJson β] [OfJson β] {value : β} {set : ρ → β → ρ}

theorem Filled.put_of (found : find? fields key = some (.put presence key set))
    (storable : Storable value) (rest : Filled fields members (set start value) final) :
    Filled fields ((key, some (toJson value)) :: members) start final :=
  .present (fill_put found storable.read) rest

theorem Filled.put [Lossless β] (found : find? fields key = some (.put presence key set))
    (rest : Filled fields members (set start value) final) :
    Filled fields ((key, some (toJson value)) :: members) start final :=
  .put_of found (Lossless.storable value) rest

theorem Filled.unless_of {c : Prop} [Decidable c]
    (found : find? fields key = some (.put presence key set)) (same : c → set start value = start)
    (storable : Storable value) (rest : Filled fields members (set start value) final) :
    Filled fields ((key, if c then none else some (toJson value)) :: members) start final := by
  split
  case isTrue default => exact .absent (same default ▸ rest)
  case isFalse => exact .put_of found storable rest

theorem Filled.unless [Lossless β] {c : Prop} [Decidable c]
    (found : find? fields key = some (.put presence key set)) (same : c → set start value = start)
    (rest : Filled fields members (set start value) final) :
    Filled fields ((key, if c then none else some (toJson value)) :: members) start final :=
  .unless_of found same (Lossless.storable value) rest

theorem Filled.lenient [Lossless β] {default : β}
    (found : find? fields key = some (.lenient key default set))
    (rest : Filled fields members (set start value) final) :
    Filled fields ((key, some (toJson value)) :: members) start final :=
  .present (fill_put found (Lossless.storable value).optional) rest

theorem Filled.lenient_of {default : β}
    (found : find? fields key = some (.lenient key default set)) (storable : Storable value)
    (rest : Filled fields members (set start value) final) :
    Filled fields ((key, some (toJson value)) :: members) start final :=
  .present (fill_put found storable.optional) rest

end

section

variable [ToJson β] [OfJson β] {value : Option β} {set : ρ → Option β → ρ}

theorem Filled.optional_of (found : find? fields key = some (.put presence key set))
    (same : set start none = start) (storable : ∀ v, value = some v → Storable v)
    (rest : Filled fields members (set start value) final) :
    Filled fields ((key, value.map toJson) :: members) start final := by
  cases value with
  | none => exact .absent (same ▸ rest)
  | some value => exact .present (fill_put found (storable value rfl).optional) rest

theorem Filled.optional [Lossless β] (found : find? fields key = some (.put presence key set))
    (same : set start none = start) (rest : Filled fields members (set start value) final) :
    Filled fields ((key, value.map toJson) :: members) start final :=
  .optional_of found same (fun v _ => Lossless.storable v) rest

end

theorem Filled.fixed {text : String} (found : find? fields key = some (.fixed key text))
    (rest : Filled fields members start final) :
    Filled fields ((key, some (.str text)) :: members) start final := by
  refine .present ?_ rest
  rw [fill, found]
  change (· start) <$> (if text = text then Except.ok id else _) = _
  rw [if_pos rfl]
  rfl

theorem Filled.other {json : Json} (unknown : find? fields key = none)
    (rest : Filled fields members start final) :
    Filled fields ((key, some json) :: members) start final := by
  refine .present ?_ rest
  rw [fill, unknown]

def requiredKeys (fields : List (Field ρ)) : List String :=
  (fields.filter (·.presence = .always)).map (·.key)

theorem requireAll_record {keys : List String} (required : requiredKeys fields = keys)
    (all : ∀ key ∈ keys, ∃ json, (key, some json) ∈ members) :
    requireAll fields ((members.filterMap fun (key, value) => value.map (key, ·)).map (·.1)) =
      .ok () := by
  unfold requireAll
  split
  case h_1 field found =>
    have lacking := List.find?_some found
    rw [decide_eq_true_eq] at lacking
    have key : field.key ∈ requiredKeys fields := List.mem_map_of_mem
      (List.mem_filter.mpr ⟨List.mem_of_find?_eq_some found, decide_eq_true lacking.1⟩)
    obtain ⟨json, member⟩ := all field.key (required ▸ key)
    refine absurd ?_ lacking.2
    exact List.mem_map.mpr ⟨_, List.mem_filterMap.mpr ⟨_, member, rfl⟩, rfl⟩
  case h_2 => rfl

end Field

section

variable {ρ : Type} {fields : List (Field ρ)} {members : List (String × Option Json)}
  {type : String} {start value : ρ} [ToJson ρ] [OfJson ρ]

theorem Storable.of_object (written : toJson value = .record members)
    (decoder : (OfJson.decoder : Decoder ρ) = .object type start fields)
    (filled : Field.Filled fields members start value) : Storable value := by
  refine ⟨written ▸ nofun, ?_⟩
  rw [ofJson, written, decoder]
  exact filled

theorem Storable.of_record (written : toJson value = .record members)
    (decoder : (OfJson.decoder : Decoder ρ) = .record type start fields)
    (keys : List String) (required : Field.requiredKeys fields = keys)
    (all : ∀ key ∈ keys, ∃ json, (key, some json) ∈ members)
    (filled : Field.Filled fields members start value) : Storable value := by
  refine ⟨written ▸ nofun, ?_⟩
  rw [ofJson, written, decoder]
  change (_ >>= fun record => Field.requireAll fields _ >>= fun _ => pure record) = _
  rw [filled, Field.requireAll_record required all]
  rfl

theorem Storable.of_optionals (written : toJson value = .record members)
    (decoder : (OfJson.decoder : Decoder ρ) = .record type start fields)
    (free : Field.requiredKeys fields = []) (filled : Field.Filled fields members start value) :
    Storable value :=
  .of_record written decoder [] free (List.forall_mem_nil _) filled

end

end AutoscalerOperator
