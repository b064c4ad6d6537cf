import AutoscalerOperator.Proofs.Storage.Warranted

namespace AutoscalerOperator

open Kubernetes

open AutoscalerOperator.Field (told_record unseen seen)

structure Condition.ReadFrom (json : Json) (c : Condition) : Prop where
  /-- A type by its name, or a known one as the only member of an object. -/
  type : json.part? 0 "type" = some (.str c.type.name) ∨
    json.part? 0 "type" = some (.obj [(c.type.name, .null)]) ∧ c.type ∈ ConditionType.known
  recognized : c.recognized = c
  status : json.part? 1 "status" = some (.str c.status.name) ∨
    json.part? 1 "status" = some (.obj [(c.status.name, .null)])
  reason : (json.part? 3 "reason").getD (.str "") = .str c.reason
  message : (json.part? 4 "message").getD (.str "") = .str c.message

theorem ConditionType.eq_of_ofJson {json : Json} {type : ConditionType}
    (read : ofJson json = .ok type) :
    (json = .str type.name ∨ json = .obj [(type.name, .null)] ∧ type ∈ known) ∧
      type.recognized = type := by
  change ConditionType.ofJson json = .ok type at read
  unfold ConditionType.ofJson at read
  split at read
  · cases read
    exact ⟨.inl (by rw [name_ofName]), recognized_ofName _⟩
  · split at read
    case h_1 found =>
      cases read
      obtain ⟨known, rfl⟩ := eq_of_ofKnown? found
      exact ⟨.inr ⟨rfl, known⟩, by rw [recognized, ofName, found, Option.getD_some]⟩
    case h_2 => cases read
  · cases read

theorem ConditionStatus.name_of_ofVariant {name : String} {status : ConditionStatus}
    (read : ofVariant name = .ok status) : name = status.name := by
  unfold ofVariant at read
  split at read
  case h_1 found =>
    cases read
    have named : status.name = name := by simpa using List.find?_some found
    exact named.symm
  case h_2 => cases read

theorem ConditionStatus.eq_of_ofJson {json : Json} {status : ConditionStatus}
    (read : ofJson json = .ok status) :
    json = .str status.name ∨ json = .obj [(status.name, .null)] := by
  change ConditionStatus.ofJson json = .ok status at read
  unfold ConditionStatus.ofJson at read
  split at read
  · exact .inl (congrArg Json.str (name_of_ofVariant read))
  · rename_i name json
    cases variant : ofVariant name with
    | error e => simp only [variant] at read; cases read
    | ok found =>
      simp only [variant] at read
      change (if json = .null then pure found else json.mismatch "unit") = _ at read
      split at read
      case isTrue null =>
        cases read
        rw [null, name_of_ofVariant variant]
        exact .inr rfl
      case isFalse => cases read
  · cases read
  · cases read

theorem text_of_ofJson {json : Json} {text : String} (read : ofJson json = .ok text) :
    json = .str text := by
  cases json <;> cases read
  rfl

theorem Told.getD_text {part : Option Json} {text : String} (told : Told "" part text) :
    part.getD (.str "") = .str text := by
  cases part with
  | none => exact congrArg Json.str (Eq.symm told)
  | some json => exact text_of_ofJson told

theorem Condition.readFrom {json : Json} {c : Condition} (read : ofJson json = .ok c) :
    c.ReadFrom json ∧ c.Readable := by
  have type : Told default (json.part? 0 "type") c.type ∧ _ :=
    told_record read ⟨rfl, by decide, fun _ _ => rfl, seen rfl, unseen fun _ _ => rfl,
      unseen fun _ _ => rfl, unseen fun _ _ => rfl, unseen fun _ _ => rfl⟩
  have status : Told default (json.part? 1 "status") c.status ∧ _ :=
    told_record read ⟨rfl, by decide, fun _ _ => rfl, unseen fun _ _ => rfl, seen rfl,
      unseen fun _ _ => rfl, unseen fun _ _ => rfl, unseen fun _ _ => rfl⟩
  have time : Told none (json.part? 2 "lastTransitionTime") c.lastTransitionTime ∧ _ :=
    told_record read ⟨rfl, by decide, fun _ _ => rfl, unseen fun _ _ => rfl,
      unseen fun _ _ => rfl, seen rfl, unseen fun _ _ => rfl, unseen fun _ _ => rfl⟩
  have reason : Told "" (json.part? 3 "reason") c.reason ∧ _ :=
    told_record read ⟨rfl, by decide, fun _ _ => rfl, unseen fun _ _ => rfl,
      unseen fun _ _ => rfl, unseen fun _ _ => rfl, seen rfl, unseen fun _ _ => rfl⟩
  have message : Told "" (json.part? 4 "message") c.message ∧ _ :=
    told_record read ⟨rfl, by decide, fun _ _ => rfl, unseen fun _ _ => rfl,
      unseen fun _ _ => rfl, unseen fun _ _ => rfl, unseen fun _ _ => rfl, seen rfl⟩
  obtain ⟨part, found, typed, known⟩ : ∃ part, json.part? 0 "type" = some part ∧
      (part = .str c.type.name ∨ part = .obj [(c.type.name, .null)] ∧
        c.type ∈ ConditionType.known) ∧ c.type.recognized = c.type := by
    obtain ⟨told, there⟩ := type
    obtain ⟨part, found⟩ := Option.isSome_iff_exists.mp (there rfl)
    rw [found] at told
    exact ⟨part, found, ConditionType.eq_of_ofJson told⟩
  refine ⟨⟨?_, ?_, ?_, reason.1.getD_text, message.1.getD_text⟩, fun t there => ?_⟩
  · rw [found]
    simpa using typed
  · rw [Condition.recognized, known]
  · obtain ⟨told, there⟩ := status
    obtain ⟨part, found⟩ := Option.isSome_iff_exists.mp (there rfl)
    rw [found] at told ⊢
    simpa using ConditionStatus.eq_of_ofJson told
  · obtain ⟨json, read⟩ := (there ▸ time.1).of_some
    exact Instant.warranted json t read

structure ClusterOperatorStatus.ReadFrom (json : Json) (s : ClusterOperatorStatus) : Prop where
  conditions : ∃ items, (json.part? 0 "conditions").getD (.arr []) = .arr items ∧
    List.Forall₂ Condition.ReadFrom items s.conditions
  extension : s.extension = (json.part? 3 "extension").filter (· ≠ .null)

theorem ClusterOperatorStatus.readFrom {json : Json} {s : ClusterOperatorStatus}
    (read : ofJson json = .ok s) : s.ReadFrom json ∧ s.Readable := by
  have conditions : Told [] (json.part? 0 "conditions") s.conditions ∧ _ :=
    told_record read ⟨rfl, by decide, fun _ _ => rfl, seen rfl, unseen fun _ _ => rfl,
      unseen fun _ _ => rfl, unseen fun _ _ => rfl⟩
  have extension : Told none (json.part? 3 "extension") s.extension ∧ _ :=
    told_record read ⟨rfl, by decide, fun _ _ => rfl, unseen fun _ _ => rfl,
      unseen fun _ _ => rfl, unseen fun _ _ => rfl, seen rfl⟩
  have listed : ∃ items, (json.part? 0 "conditions").getD (.arr []) = .arr items ∧
      List.Forall₂ (fun item c => ofJson item = .ok c) items s.conditions := by
    obtain ⟨conditions, -⟩ := conditions
    cases part : json.part? 0 "conditions" with
    | none =>
      rw [part] at conditions
      exact ⟨[], rfl, (show s.conditions = [] from conditions) ▸ .nil⟩
    | some json =>
      rw [part] at conditions
      exact forall₂_of_list conditions
  have kept : s.extension = (json.part? 3 "extension").filter (· ≠ .null) := by
    have related := extension.1.optional
    generalize (json.part? 3 "extension").filter (· ≠ .null) = part at related ⊢
    generalize s.extension = extension at related ⊢
    cases related with
    | some read => exact congrArg some (Except.ok.inj read).symm
    | none => rfl
  obtain ⟨items, written, all⟩ := listed
  refine ⟨⟨⟨items, written, all.imp fun _ _ read => (Condition.readFrom read).1⟩, kept⟩, ?_, ?_⟩
  · intro c member
    obtain ⟨item, read⟩ := forall₂_right all c member
    exact (Condition.readFrom read).2
  · rw [kept]
    intro null
    obtain ⟨-, different⟩ := Option.filter_eq_some_iff.mp null
    simp at different

theorem ClusterOperatorStatus.ReadFrom.recognized {json : Json} {s : ClusterOperatorStatus}
    (said : s.ReadFrom json) : s.recognized = s := by
  obtain ⟨items, -, all⟩ := said.conditions
  refine ClusterOperatorStatus.recognized_eq fun c member => ?_
  obtain ⟨item, said⟩ := forall₂_right all c member
  exact said.recognized

def ClusterOperator.ReadFrom (json : Json) (o : ClusterOperator) : Prop :=
  Option.Rel ClusterOperatorStatus.ReadFrom ((json.part? 2 "status").filter (· ≠ .null)) o.status

theorem ClusterOperator.ReadFrom.recognized {json : Json} {o : ClusterOperator}
    (said : o.ReadFrom json) : o.recognized = o := by
  have same : o.status.map ClusterOperatorStatus.recognized = o.status := by
    unfold ReadFrom at said
    generalize (json.part? 2 "status").filter (· ≠ .null) = part at said
    generalize o.status = status at said ⊢
    cases said with
    | some said => exact congrArg some said.recognized
    | none => rfl
  rw [ClusterOperator.recognized, same]

theorem ClusterOperator.spec_unseen {β : Type} {view : ClusterOperator → β} {key : String} :
    "spec" ≠ key → Field.Keeps
      { key := "spec", presence := .always, value := (fun _ => id) <$> ClusterOperator.specDecoder }
      view := by
  intro _ json change told o
  obtain ⟨-, -, rfl⟩ := map_eq_ok told
  rfl

theorem ClusterOperator.readFrom {json : Json} {o : ClusterOperator} (read : ofJson json = .ok o) :
    o.ReadFrom json ∧ o.Readable := by
  have metadata : Told {} (json.part? 0 "metadata") o.metadata ∧ _ :=
    told_record read ⟨rfl, by decide, fun _ _ => rfl, seen rfl, spec_unseen, unseen fun _ _ => rfl⟩
  have status : Told none (json.part? 2 "status") o.status ∧ _ :=
    told_record read ⟨rfl, by decide, fun _ _ => rfl, unseen fun _ _ => rfl, spec_unseen, seen rfl⟩
  refine ⟨?_, ?_, ?_⟩
  · have related := status.1.optional
    unfold ReadFrom
    generalize (json.part? 2 "status").filter (· ≠ .null) = part at related ⊢
    generalize o.status = status at related ⊢
    cases related with
    | some read => exact .some (ClusterOperatorStatus.readFrom read).1
    | none => exact .none
  · obtain ⟨told, there⟩ := metadata
    obtain ⟨part, found⟩ := Option.isSome_iff_exists.mp (there rfl)
    rw [found] at told
    exact ObjectMeta.warranted part o.metadata told
  · intro s there
    obtain ⟨part, read⟩ := (there ▸ status.1).of_some
    exact (ClusterOperatorStatus.readFrom read).2

/-- The spec of an instance is read from its document as it was. What is read from any document of a
    cluster operator is what that document says, in its order, and stays so however often it is
    written and read. -/
theorem resources_survive_storage :
    (∀ spec : ControllerSpec, ofJson (toJson spec) = .ok spec) ∧
      ∀ (json : Json) (o : ClusterOperator), ofJson json = .ok o →
        o.ReadFrom json ∧ ofJson (toJson o) = .ok o ∧ o.ReadFrom (toJson o) := by
  refine ⟨fun spec => (Lossless.storable spec).read, fun json o read => ?_⟩
  obtain ⟨said, readable⟩ := ClusterOperator.readFrom read
  have again : ofJson (toJson o) = .ok o := said.recognized ▸ readable.storable.read
  exact ⟨said, again, (ClusterOperator.readFrom again).1⟩

def extended : ClusterOperator where
  metadata := { name := some "operator" }
  status := some {
    conditions := [
      { type := .other "Overloaded"
        status := .unknown
        lastTransitionTime := some ⟨1577934245, false⟩
        message := "busy" },
      { type := .available, status := .true }]
    extension := some (.obj [("load", .int 1), ("peak", .null)]) }

def extendedDocument : Json := .obj [
  ("metadata", .obj [("name", .str "operator"), ("labels", .null)]),
  ("spec", .obj []),
  ("status", .obj [
    ("conditions", .arr [
      .obj [
        ("type", .str "Overloaded"),
        ("status", .str "Unknown"),
        ("lastTransitionTime", .str "2020-01-02t04:04:05.5+01:00"),
        ("message", .str "busy")],
      .obj [("type", .obj [("Available", .null)]), ("status", .str "True")]]),
    ("extension", .obj [("load", .int 1), ("peak", .null)]),
    ("versions", .null)])]

theorem extended_survives_storage :
    ofJson extendedDocument = .ok extended ∧ extended.ReadFrom extendedDocument ∧
      ofJson (toJson extended) = .ok extended ∧ extended.ReadFrom (toJson extended) := by
  have read : ofJson extendedDocument = .ok extended := by decide +kernel
  exact ⟨read, resources_survive_storage.2 extendedDocument extended read⟩

end AutoscalerOperator
