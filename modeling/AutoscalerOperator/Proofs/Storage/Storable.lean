import AutoscalerOperator.Json.Record
import AutoscalerOperator.Proofs.Instant.ReadBack

namespace AutoscalerOperator

variable {α β : Type}

theorem optional_ofJson (decoder : Decoder α) {json : Json} (told : json ≠ .null) :
    decoder.optional.ofJson json = some <$> decoder.ofJson json := by
  cases json <;> first | rfl | exact absurd rfl told

theorem Entries.insert_last {key : String} {value : α} {entries : List (String × α)}
    (last : ∀ entry ∈ entries, entry.1 < key) :
    Entries.insert key value entries = entries ++ [(key, value)] := by
  induction entries with
  | nil => rfl
  | cons head entries ih =>
    have below := last head List.mem_cons_self
    have rest := ih fun entry member => last entry (List.mem_cons_of_mem _ member)
    rw [Entries.insert, if_neg (String.lt_asymm below), if_neg fun same => ?_, rest,
      List.cons_append]
    exact String.lt_irrefl key (same ▸ below)

theorem read_entries (write : α → Json)
    {step : SortedMap α → String × Json → Decoded (SortedMap α)} (start : SortedMap α)
    {map : SortedMap α} {entries : List (String × α)} (whole : start.entries ++ entries = map.entries)
    (all : ∀ entry ∈ entries, ∀ before : SortedMap α,
      step before (entry.1, write entry.2) = .ok (before.insert entry.1 entry.2)) :
    (entries.map fun (key, value) => (key, write value)).foldlM step start = .ok map := by
  induction entries generalizing start with
  | nil =>
    obtain ⟨entries, ascending⟩ := start
    obtain ⟨others, ascending'⟩ := map
    rw [List.append_nil] at whole
    cases whole
    rfl
  | cons head entries ih =>
    have below : ∀ entry ∈ start.entries, entry.1 < head.1 := fun entry member =>
      (List.pairwise_append.mp (whole ▸ map.ascending)).2.2 entry member head List.mem_cons_self
    have next : (start.insert head.1 head.2).entries ++ entries = map.entries := by
      change Entries.insert head.1 head.2 start.entries ++ entries = map.entries
      rw [Entries.insert_last below, List.append_assoc]
      exact whole
    rw [List.map_cons, List.foldlM_cons, all head List.mem_cons_self start]
    exact ih (start.insert head.1 head.2) next fun entry member =>
      all entry (List.mem_cons_of_mem _ member)

theorem foldlM_keeps {σ ε : Type} {step : σ → α → Except ε σ} {P : σ → Prop}
    (kept : ∀ s a t, P s → step s a = .ok t → P t) {items : List α} {start final : σ}
    (first : P start) (folded : items.foldlM step start = .ok final) : P final := by
  induction items generalizing start with
  | nil => cases folded; exact first
  | cons item items ih =>
    rw [List.foldlM_cons] at folded
    cases stepped : step start item with
    | error e => rw [stepped] at folded; cases folded
    | ok next =>
      rw [stepped] at folded
      exact ih (kept start item next first stepped) folded

/-- Values whose documents tell them: a document is not null, so that an option of them can be told
    from none, and is read as the value it was written from. -/
structure Storable [ToJson α] [OfJson α] (value : α) : Prop where
  told : toJson value ≠ .null
  read : ofJson (toJson value) = .ok value

class Lossless (α : Type) [ToJson α] [OfJson α] : Prop where
  storable (value : α) : Storable value

section

variable [ToJson α] [OfJson α]

theorem Storable.eq_of_toJson {a b : α} (left : Storable a) (right : Storable b)
    (same : toJson a = toJson b) : a = b :=
  Except.ok.inj (left.read.symm.trans (same ▸ right.read))

theorem Storable.optional {value : α} (storable : Storable value) :
    (OfJson.decoder : Decoder (Option α)).ofJson (toJson value) = .ok (some value) := by
  have read : (OfJson.decoder : Decoder α).ofJson (toJson value) = .ok value := storable.read
  change (OfJson.decoder : Decoder α).optional.ofJson (toJson value) = _
  rw [optional_ofJson _ storable.told, read]
  rfl

theorem storable_list {values : List α} (all : ∀ v ∈ values, Storable v) : Storable values := by
  refine ⟨nofun, ?_⟩
  change (values.map toJson).mapM (OfJson.decoder : Decoder α).ofJson = .ok values
  induction values with
  | nil => rfl
  | cons value values ih =>
    have first : (OfJson.decoder : Decoder α).ofJson (toJson value) = .ok value :=
      (all value List.mem_cons_self).read
    rw [List.map_cons, List.mapM_cons, first,
      ih fun v member => all v (List.mem_cons_of_mem _ member)]
    rfl

instance [Lossless α] : Lossless (List α) := ⟨fun _ => storable_list fun v _ => Lossless.storable v⟩

theorem storable_sortedMap {map : SortedMap α} (all : ∀ entry ∈ map.entries, Storable entry.2) :
    Storable map := by
  refine ⟨nofun, read_entries toJson .empty rfl fun entry member before => ?_⟩
  have read : (OfJson.decoder : Decoder α).ofJson (toJson entry.2) = .ok entry.2 :=
    (all entry member).read
  change before.insert entry.1 <$> (OfJson.decoder : Decoder α).ofJson (toJson entry.2) = _
  rw [read]
  rfl

instance [Lossless α] : Lossless (SortedMap α) :=
  ⟨fun _ => storable_sortedMap fun entry _ => Lossless.storable entry.2⟩

end

instance : Lossless String := ⟨fun _ => ⟨nofun, rfl⟩⟩

instance : Lossless Bool := ⟨fun _ => ⟨nofun, rfl⟩⟩

instance : Lossless Double := ⟨fun _ => ⟨nofun, rfl⟩⟩

theorem integer_ofJson {type : String} {least greatest n : Int} {ofInt : Int → α}
    (within : least ≤ n ∧ n ≤ greatest) :
    (Decoder.integer type least greatest ofInt).ofJson (.int n) = .ok (ofInt n) :=
  if_pos within

instance : Lossless Int32 := by
  refine ⟨fun n => ⟨nofun, ?_⟩⟩
  refine (integer_ofJson ⟨n.minValue_le_toInt, n.toInt_le⟩).trans ?_
  rw [Int32.ofInt_toInt]

instance : Lossless Int64 := by
  refine ⟨fun n => ⟨nofun, ?_⟩⟩
  refine (integer_ofJson ⟨n.minValue_le_toInt, n.toInt_le⟩).trans ?_
  rw [Int64.ofInt_toInt]

theorem Instant.readable_of_ofJson {json : Json} {t : Instant} (read : ofJson json = .ok t) :
    t.Readable := by
  simp only [ofJson, OfJson.decoder, Decoder.simple] at read
  cases json with
  | str text =>
    cases told : Instant.ofText text with
    | error e => simp only [told] at read; cases read
    | ok found => simp only [told] at read; cases read; exact readable_of_ofText told
  | _ => cases read

theorem Instant.Readable.storable {t : Instant} (readable : t.Readable) : Storable t := by
  refine ⟨nofun, ?_⟩
  simp only [ofJson, toJson, OfJson.decoder, Decoder.simple, readable.ofText_toText]
  rfl

end AutoscalerOperator
