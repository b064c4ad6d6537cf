import AutoscalerOperator.Kubernetes.Shape
import AutoscalerOperator.Proofs.Storage.Parts

namespace AutoscalerOperator

instance : Lossless Quantity := ⟨fun _ => ⟨nofun, rfl⟩⟩

namespace Kubernetes

instance : Lossless IntOrString := by
  refine ⟨fun value => ?_⟩
  cases value with
  | int value => exact ⟨nofun, (if_pos ⟨value.minValue_le_toInt, value.toInt_le⟩).trans (by simp)⟩
  | string => exact ⟨nofun, rfl⟩

/-- What is kept of a document is not null, and is kept as it is when it is read again. -/
def Steady (decoder : Decoder Json) : Prop :=
  ∀ json kept, decoder.ofJson json = .ok kept → kept ≠ .null ∧ decoder.ofJson kept = .ok kept

theorem mapM_same {decode : Json → Decoded Json} {items : List Json}
    (same : ∀ item ∈ items, decode item = .ok item) : items.mapM decode = .ok items := by
  induction items with
  | nil => rfl
  | cons item items ih =>
    obtain ⟨first, rest⟩ := List.forall_mem_cons.mp same
    rw [List.mapM_cons, first, ih rest]
    rfl

namespace Steady

variable {decoder : Decoder Json}

theorem rewritten {α : Type} [ToJson α] [OfJson α]
    (storable : ∀ json (value : α), ofJson json = .ok value → Storable value) :
    Steady (Shape.rewritten α) := by
  intro json kept read
  obtain ⟨value, told, rfl⟩ := map_eq_ok read
  obtain ⟨there, again⟩ := storable json value told
  exact ⟨there, congrArg (toJson <$> ·) again⟩

theorem of_lossless {α : Type} [ToJson α] [OfJson α] [Lossless α] : Steady (Shape.rewritten α) :=
  rewritten fun _ value _ => Lossless.storable value

theorem time : Steady (Shape.rewritten Instant) :=
  rewritten fun _ _ read => (Instant.readable_of_ofJson read).storable

theorem document : Steady Shape.document.decoder := by
  intro json kept read
  change (if json = .null then json.mismatch "a value" else .ok json) = Except.ok kept at read
  split at read
  case isTrue => cases read
  case isFalse there =>
    cases read
    exact ⟨there, if_neg there⟩

theorem list (steady : Steady decoder) : Steady (Json.arr <$> decoder.list) := by
  intro json kept read
  obtain ⟨items, told, rfl⟩ := map_eq_ok read
  obtain ⟨sources, -, all⟩ := forall₂_of_list told
  have again : items.mapM decoder.ofJson = .ok items := mapM_same fun item member => by
    obtain ⟨source, read⟩ := forall₂_right all item member
    exact (steady source item read).2
  exact ⟨nofun, congrArg (Json.arr <$> ·) again⟩

theorem map (steady : Steady decoder) :
    Steady ((fun map : SortedMap Json => .obj map.entries) <$> decoder.sortedMap) := by
  intro json kept read
  obtain ⟨map, told, rfl⟩ := map_eq_ok read
  have again : decoder.sortedMap.ofJson (.obj (map.entries.map fun entry => (entry.1, entry.2))) =
      .ok map := read_entries id .empty rfl fun entry member before => by
    obtain ⟨source, read⟩ := read_of_sortedMap told entry member
    change before.insert entry.1 <$> decoder.ofJson entry.2 = _
    rw [(steady source entry.2 read).2]
    rfl
  rw [List.map_id'] at again
  exact ⟨nofun, congrArg ((fun map : SortedMap Json => Json.obj map.entries) <$> ·) again⟩

end Steady

namespace Shape

open AutoscalerOperator.Field (find? fill)

variable {needed free shapes : List (String × Shape)} {map next : SortedMap Json}

theorem members_append (first second : List (String × Shape)) :
    members first ++ members second = members (first ++ second) := by
  induction first with
  | nil => rfl
  | cons head first ih => exact congrArg (_ :: ·) ih

theorem find?_members {key : String} {field : Field (SortedMap Json)}
    (found : find? (members shapes) key = some field) :
    ∃ entry ∈ shapes, field = member key entry.2.decoder := by
  induction shapes with
  | nil => cases found
  | cons head shapes ih =>
    obtain ⟨other, shape⟩ := head
    rw [members, find?, List.find?_cons] at found
    split at found
    case h_1 here =>
      have same : other = key := of_decide_eq_true here
      cases found
      exact ⟨_, List.mem_cons_self, by rw [same]⟩
    case h_2 =>
      obtain ⟨entry, listed, same⟩ := ih found
      exact ⟨entry, List.mem_cons_of_mem _ listed, same⟩

theorem find?_members_first {key : String} {early : List (String × Shape)} (shape : Shape)
    (late : List (String × Shape)) (first : ∀ entry ∈ early, entry.1 ≠ key) :
    find? (members (early ++ (key, shape) :: late)) key = some (member key shape.decoder) := by
  induction early with
  | nil => simp [members, find?, member]
  | cons head early ih =>
    obtain ⟨other, rest⟩ := List.forall_mem_cons.mp first
    have later := ih rest
    rw [find?] at later
    simpa [members, find?, member, other] using later

def Holds (shapes : List (String × Shape)) (map : SortedMap Json) : Prop :=
  ∀ entry ∈ map.entries, ∃ decoder, find? (members shapes) entry.1 = some (member entry.1 decoder) ∧
    entry.2 ≠ .null ∧ decoder.ofJson entry.2 = .ok entry.2

theorem holds_empty : Holds shapes .empty := fun _ listed => by cases listed

theorem Holds.insert {key : String} {json : Json} {decoder : Decoder Json} (holds : Holds shapes map)
    (found : find? (members shapes) key = some (member key decoder)) (there : json ≠ .null)
    (same : decoder.ofJson json = .ok json) : Holds shapes (map.insert key json) := by
  intro entry listed
  rcases Entries.mem_of_mem_insert listed with rfl | listed
  · exact ⟨decoder, found, there, same⟩
  · exact holds entry listed

theorem Holds.fill {key : String} {json : Json}
    (steady : ∀ entry ∈ shapes, Steady entry.2.decoder) (holds : Holds shapes map)
    (filled : fill (members shapes) map key json = .ok next) : Holds shapes next := by
  obtain ⟨-, rfl⟩ | ⟨field, change, found, told, rfl⟩ := Field.fill_eq_ok filled
  · exact holds
  · obtain ⟨entry, listed, rfl⟩ := find?_members found
    obtain ⟨json?, read, rfl⟩ := map_eq_ok told
    by_cases null : json = .null
    · subst null
      cases read
      exact fun entry listed => holds entry (Entries.mem_of_mem_erase listed)
    · rw [optional_ofJson _ null] at read
      obtain ⟨kept, stays, rfl⟩ := map_eq_ok read
      obtain ⟨there, again⟩ := steady entry listed json kept stays
      exact holds.insert found there again

theorem fill_again (holds : Holds shapes map) {entry : String × Json} (listed : entry ∈ map.entries)
    (before : SortedMap Json) :
    fill (members shapes) before entry.1 entry.2 = .ok (before.insert entry.1 entry.2) := by
  obtain ⟨decoder, found, there, same⟩ := holds entry listed
  have read : decoder.optional.ofJson entry.2 = .ok (some entry.2) := by
    rw [optional_ofJson _ there, same]
    rfl
  rw [fill, found]
  simp only [member, Functor.map, read]
  rfl

theorem contains_insert (map : SortedMap Json) (key other : String) (json : Json)
    (there : map.contains other = true) : (map.insert key json).contains other = true := by
  rw [SortedMap.contains, SortedMap.get?_insert]
  split
  · rfl
  · exact there

theorem contains_completed (needed : List (String × Shape)) (map : SortedMap Json) :
    (∀ key, map.contains key = true → (completed needed map).contains key = true) ∧
      ∀ entry ∈ needed, (completed needed map).contains entry.1 = true := by
  induction needed generalizing map with
  | nil => exact ⟨fun _ there => there, List.forall_mem_nil _⟩
  | cons head needed ih =>
    obtain ⟨key, shape⟩ := head
    rw [completed]
    split
    case isTrue there =>
      obtain ⟨kept, all⟩ := ih map
      exact ⟨kept, List.forall_mem_cons.mpr ⟨kept key there, all⟩⟩
    case isFalse =>
      obtain ⟨kept, all⟩ := ih (map.insert key shape.blank)
      have there : (map.insert key shape.blank).contains key = true := by
        simp [SortedMap.contains, SortedMap.get?_insert]
      exact ⟨fun other held => kept other (contains_insert map key other _ held),
        List.forall_mem_cons.mpr ⟨kept key there, all⟩⟩

theorem completed_same (all : ∀ entry ∈ needed, map.contains entry.1 = true) :
    completed needed map = map := by
  induction needed with
  | nil => rfl
  | cons head needed ih =>
    obtain ⟨first, rest⟩ := List.forall_mem_cons.mp all
    rw [completed, if_pos first, ih rest]

theorem Holds.completed (early : List (String × Shape))
    (blank : ∀ entry ∈ needed, entry.2.blank ≠ .null ∧
      entry.2.decoder.ofJson entry.2.blank = .ok entry.2.blank)
    (done : ∀ entry ∈ early, map.contains entry.1 = true)
    (holds : Holds (early ++ needed ++ free) map) :
    Holds (early ++ needed ++ free) (completed needed map) := by
  induction needed generalizing early map with
  | nil => exact holds
  | cons head needed ih =>
    obtain ⟨key, shape⟩ := head
    obtain ⟨first, rest⟩ := List.forall_mem_cons.mp blank
    have shift : early ++ (key, shape) :: needed ++ free =
        early ++ [(key, shape)] ++ needed ++ free := by simp
    rw [shift] at holds ⊢
    rw [Shape.completed]
    split
    case isTrue there =>
      exact ih _ rest (List.forall_mem_append.mpr ⟨done, by simpa using there⟩) holds
    case isFalse missing =>
      -- No member before this one has its key, so its own field reads what is put in.
      have apart : ∀ entry ∈ early, entry.1 ≠ key := by
        rintro entry listed rfl
        exact missing (done entry listed)
      have found := find?_members_first shape (needed ++ free) apart
      rw [← List.singleton_append, ← List.append_assoc, ← List.append_assoc] at found
      refine ih _ rest (List.forall_mem_append.mpr ⟨fun entry listed => ?_, ?_⟩)
        (holds.insert found first.1 first.2)
      · exact contains_insert map key entry.1 _ (done entry listed)
      · simp [SortedMap.contains, SortedMap.get?_insert]

theorem read_blank (shape : Shape) : ∃ json, shape.decoder.ofJson json = .ok shape.blank := by
  cases shape with
  | time =>
    have readable : (default : Instant).Readable := ⟨by decide, nofun⟩
    exact ⟨blank .time, congrArg (toJson <$> ·) readable.storable.read⟩
  | record type needed free => exact ⟨.obj [], rfl⟩
  | text | quantity => exact ⟨.str "", rfl⟩
  | flag => exact ⟨.bool false, rfl⟩
  | int32 | int64 | intOrString => exact ⟨.int 0, rfl⟩
  | list => exact ⟨.arr [], rfl⟩
  | document | map => exact ⟨.obj [], rfl⟩

theorem steady_record {type : String} (all : ∀ entry ∈ needed, Steady entry.2.decoder)
    (others : ∀ entry ∈ free, Steady entry.2.decoder) :
    Steady (record type needed free).decoder := by
  intro json kept read
  obtain ⟨given, told, rfl⟩ := map_eq_ok read
  cases json with
  | obj entries =>
    change entries.foldlM
      (fun map entry => fill (members needed ++ members free) map entry.1 entry.2) .empty =
        .ok given at told
    rw [members_append] at told
    have holds : Holds (needed ++ free) given :=
      foldlM_keeps (fun map _ next holds filled => holds.fill
        (List.forall_mem_append.mpr ⟨all, others⟩) filled) holds_empty told
    have whole : Holds (needed ++ free) (completed needed given) := by
      refine Holds.completed [] (fun entry listed => ?_) (List.forall_mem_nil _) holds
      obtain ⟨source, read⟩ := read_blank entry.2
      exact all entry listed source entry.2.blank read
    have again : (Decoder.object type .empty (members needed ++ members free)).ofJson
        (.obj ((completed needed given).entries.map fun entry => (entry.1, entry.2))) =
          .ok (completed needed given) := by
      rw [members_append]
      exact read_entries id .empty rfl fun entry listed before =>
        fill_again whole listed before
    rw [List.map_id'] at again
    refine ⟨nofun, ?_⟩
    change (fun given => Json.obj (completed needed given).entries) <$>
      (Decoder.object type .empty _).ofJson _ = _
    rw [again]
    change Except.ok (Json.obj (completed needed (completed needed given)).entries) = _
    rw [completed_same (contains_completed needed given).2]
  | _ => cases told

mutual

theorem steady : (shape : Shape) → Steady shape.decoder
  | .text | .flag | .int32 | .int64 | .intOrString | .quantity => .of_lossless
  | .time => .time
  | .document => .document
  | .list items => (steady items).list
  | .map values => (steady values).map
  | .record _ needed free => steady_record (steady_all needed) (steady_all free)

theorem steady_all : (shapes : List (String × Shape)) → ∀ entry ∈ shapes, Steady entry.2.decoder
  | [] => List.forall_mem_nil _
  | (_, shape) :: shapes => List.forall_mem_cons.mpr ⟨steady shape, steady_all shapes⟩

end

end Shape

instance (shape : Shape) : Lossless (Carried shape) := by
  refine ⟨fun carried => ?_⟩
  obtain ⟨document, source, read⟩ := carried
  obtain ⟨there, again⟩ := shape.steady source document read
  refine ⟨there, ?_⟩
  change shape.carry document = _
  unfold Shape.carry
  split
  case h_1 kept told =>
    cases again.symm.trans told
    rfl
  case h_2 e told => cases again.symm.trans told

end Kubernetes

end AutoscalerOperator
