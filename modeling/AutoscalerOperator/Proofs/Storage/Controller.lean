import AutoscalerOperator.Controller.Instance
import AutoscalerOperator.Proofs.Storage.Kubernetes

namespace AutoscalerOperator

theorem SortedMap.eq_empty_of_isEmpty {α : Type} {map : SortedMap α} (nothing : map.isEmpty = true) :
    map = .empty := by
  obtain ⟨entries, ascending⟩ := map
  cases List.isEmpty_iff.mp nothing
  rfl

namespace Field

variable {ρ β : Type} [ToJson β] [OfJson β] {fields : List (Field ρ)}
  {members : List (String × Option Json)} {start final : ρ} {key : String} {presence : Presence}
  {values : List β} {set : ρ → List β → ρ}

theorem Filled.unlessEmpty_of (found : find? fields key = some (.put presence key set))
    (same : set start [] = start) (storable : ∀ value ∈ values, Storable value)
    (rest : Filled fields members (set start values) final) :
    Filled fields ((key, Json.unlessEmpty values) :: members) start final :=
  .unless_of found (fun nothing => by rw [List.isEmpty_iff.mp nothing, same])
    (storable_list storable) rest

theorem Filled.unlessEmpty [Lossless β] (found : find? fields key = some (.put presence key set))
    (same : set start [] = start) (rest : Filled fields members (set start values) final) :
    Filled fields ((key, Json.unlessEmpty values) :: members) start final :=
  .unlessEmpty_of found same (fun value _ => Lossless.storable value) rest

end Field

instance : Lossless ContainerOverride := ⟨fun _ => .of_optionals rfl rfl rfl <|
  .unlessEmpty rfl rfl <| .optional rfl rfl .nil⟩

instance : Lossless DeploymentOverride := ⟨fun _ => .of_optionals rfl rfl rfl <|
  .put rfl <| .unless rfl (fun nothing => by rw [SortedMap.eq_empty_of_isEmpty nothing]) <|
  .unlessEmpty rfl rfl .nil⟩

instance : Lossless DeploymentOverrides := ⟨fun _ => .of_optionals rfl rfl rfl <|
  .put rfl <| .put rfl <| .put rfl .nil⟩

instance : Lossless ControllerSpec := ⟨fun _ => .of_optionals rfl rfl rfl <|
  .put rfl <| .optional rfl rfl <| .optional rfl rfl <| .optional rfl rfl <| .optional rfl rfl <|
  .optional rfl rfl .nil⟩

instance : Lossless ControllerStatus := ⟨fun _ => ⟨nofun, rfl⟩⟩

theorem AutoscalerController.storable {c : AutoscalerController} (readable : c.metadata.Readable) :
    Storable c :=
  .of_record rfl rfl ["metadata", "spec"] rfl (by simp) <|
    .other rfl <| .other rfl <| .put_of rfl readable.storable <| .put rfl <|
    .optional rfl rfl .nil

end AutoscalerOperator
