import AutoscalerOperator.ClusterOperator.Coding
import AutoscalerOperator.Proofs.Storage.Controller

namespace AutoscalerOperator

open Kubernetes

namespace Field

variable {ρ : Type} {fields : List (Field ρ)} {members : List (String × Option Json)}
  {start final : ρ} {key word : String} {presence : Presence} {set : ρ → String → ρ}

theorem Filled.text (found : find? fields key = some (.put presence key set))
    (rest : Filled fields members (set start word) final) :
    Filled fields ((key, some (.str word)) :: members) start final :=
  .put found rest

theorem Filled.unlessBlank (found : find? fields key = some (.put presence key set))
    (same : set start "" = start) (rest : Filled fields members (set start word) final) :
    Filled fields ((key, Json.unlessBlank word) :: members) start final :=
  .unless found (fun blank => by rw [blank, same]) rest

end Field

theorem ConditionType.storable {type : ConditionType} (known : type.recognized = type) :
    Storable type :=
  ⟨nofun, congrArg Except.ok known⟩

instance : Lossless ConditionStatus := ⟨fun status => ⟨nofun, by cases status <;> rfl⟩⟩

instance : Lossless OperandVersion := ⟨fun _ =>
  .of_record rfl rfl ["name", "version"] rfl (by simp) <| .text rfl <| .text rfl .nil⟩

instance : Lossless RelatedObject := ⟨fun _ =>
  .of_record rfl rfl ["resource", "name"] rfl (by simp) <|
    .text rfl <| .text rfl <| .unlessBlank rfl rfl <| .text rfl .nil⟩

def Condition.Readable (c : Condition) : Prop := ∀ t, c.lastTransitionTime = some t → t.Readable

theorem Condition.Readable.storable {c : Condition} (readable : c.Readable) :
    Storable c.recognized :=
  .of_record rfl rfl ["type", "status"] rfl (by simp) <|
    .optional_of rfl rfl (fun t told => (readable t told).storable) <|
    .unlessBlank rfl rfl <| .unlessBlank rfl rfl <| .put rfl <|
    .put_of rfl (ConditionType.storable c.type.recognized_recognized) .nil

/-- A status whose moments a text can tell. An extension that is null would be lost. -/
structure ClusterOperatorStatus.Readable (s : ClusterOperatorStatus) : Prop where
  conditions : ∀ c ∈ s.conditions, c.Readable
  extension : s.extension ≠ some .null

theorem ClusterOperatorStatus.Readable.recognized {s : ClusterOperatorStatus}
    (readable : s.Readable) : s.recognized.Readable where
  conditions c member := by
    obtain ⟨given, listed, rfl⟩ := List.mem_map.mp member
    exact readable.conditions given listed
  extension := readable.extension

theorem ClusterOperatorStatus.Readable.storable {s : ClusterOperatorStatus}
    (readable : s.Readable) : Storable s.recognized := by
  have extension : ∀ json, s.extension = some json → Storable json := by
    rintro json told
    exact ⟨fun null => readable.extension (told.trans (congrArg some null)), rfl⟩
  have conditions : ∀ c ∈ s.recognized.conditions, Storable c := by
    intro c member
    obtain ⟨given, listed, rfl⟩ := List.mem_map.mp member
    exact (readable.conditions given listed).storable
  have written : toJson s.recognized = .record [
      ("conditions", Json.unlessEmpty s.recognized.conditions),
      ("extension", s.extension.map toJson),
      ("relatedObjects", Json.unlessEmpty s.relatedObjects),
      ("versions", s.versions.map toJson)] := by
    rw [show s.extension.map toJson = s.extension from congrFun Option.map_id _]
    rfl
  exact .of_optionals written rfl rfl <|
    .unlessEmpty_of rfl rfl conditions <|
    .optional_of rfl rfl extension <|
    .unlessEmpty rfl rfl <| .optional rfl rfl .nil

structure ClusterOperator.Readable (o : ClusterOperator) : Prop where
  metadata : o.metadata.Readable
  status : ∀ status, o.status = some status → status.Readable

theorem ClusterOperator.Readable.recognized {o : ClusterOperator} (readable : o.Readable) :
    o.recognized.Readable where
  metadata := readable.metadata
  status status there := by
    obtain ⟨given, held, rfl⟩ := Option.map_eq_some_iff.mp there
    exact (readable.status given held).recognized

theorem ClusterOperator.Readable.storable {o : ClusterOperator} (readable : o.Readable) :
    Storable o.recognized := by
  have status : ∀ status, o.recognized.status = some status → Storable status := by
    intro status there
    obtain ⟨given, held, rfl⟩ := Option.map_eq_some_iff.mp there
    exact (readable.status given held).storable
  exact .of_record rfl rfl ["metadata", "spec"] rfl (by simp) <|
    .other rfl <| .other rfl <| .put_of rfl readable.metadata.storable <|
    .present rfl <| .optional_of rfl rfl status .nil

end AutoscalerOperator
