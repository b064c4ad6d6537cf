import AutoscalerOperator.Managed.Desired
import AutoscalerOperator.Proofs.Cluster.Writes
import AutoscalerOperator.Proofs.Managed.Settled
import AutoscalerOperator.Reconcile

namespace AutoscalerOperator

open Kubernetes

namespace ManagedObject

def key (desired : ManagedObject) : ObjectKey :=
  let metadata := desired.managed.kind.metadata desired.object
  ⟨metadata.namespaceName, metadata.nameOrGenerated⟩

def Apart (left right : ManagedObject) : Prop :=
  left.managed.kind ≠ right.managed.kind ∨ left.key ≠ right.key

theorem Apart.symm {left right : ManagedObject} (apart : left.Apart right) : right.Apart left :=
  apart.imp Ne.symm Ne.symm

structure Complete (desired : ManagedObject) : Prop where
  named : (desired.managed.kind.metadata desired.object).name = some desired.key.name
  nonempty : desired.key.name ≠ ""
  stamped : ∃ plain release, desired.object = desired.managed.stamped plain release

theorem Complete.names {desired : ManagedObject} (complete : desired.Complete)
    {object : desired.managed.Object}
    (space : (desired.managed.kind.metadata object).namespaceName =
      (desired.managed.kind.metadata desired.object).namespaceName)
    (name : (desired.managed.kind.metadata object).name =
      (desired.managed.kind.metadata desired.object).name) :
    desired.key.Names desired.managed.kind object := by
  refine ⟨space, ?_⟩
  rw [name, complete.named]
  rfl

end ManagedObject

theorem metadata_ownedBy (owner : AutoscalerController) (kind : Kind) (desired : kind.Object) :
    ∃ ownerReferences, kind.metadata (ownedBy owner kind desired) =
      { kind.metadata desired with ownerReferences } := by
  unfold ownedBy
  split
  · exact ⟨_, Kind.metadata_withMetadata ..⟩
  · exact ⟨_, rfl⟩

theorem converge_changed_ownedBy (owner : AutoscalerController) (managed : ManagedKind)
    (object desired : managed.Object) :
    (managed.converge (ownedBy owner managed.kind object) desired).changed =
      (managed.converge object desired).changed := by
  unfold ownedBy
  split
  · exact managed.converge_changed_withMetadata object desired _ rfl
  · rfl

namespace Operand

theorem resourceName_injective {left right : Operand} {instanceName : String}
    (same : left.resourceName instanceName = right.resourceName instanceName) : left = right := by
  have stems := (String.append_left_inj instanceName).mp same
  cases left <;> cases right <;> first | rfl | exact absurd stems (by decide)

theorem resourceName_ne_empty (operand : Operand) (instanceName : String) :
    operand.resourceName instanceName ≠ "" := by
  intro empty
  have stem := (String.append_eq_empty_iff.mp empty).1
  cases operand <;> exact absurd stem (by decide)

end Operand

section

variable (owner : AutoscalerController) (config : Config)

theorem complete_desiredDeployment (operand : Operand) :
    ManagedObject.Complete ⟨.deployment, desiredDeployment operand owner config⟩ where
  named := rfl
  nonempty := operand.resourceName_ne_empty owner.displayName
  stamped := ⟨_, config.releaseVersion, rfl⟩

theorem complete_desiredService : ManagedObject.Complete ⟨.service, desiredService config⟩ where
  named := rfl
  nonempty := (by decide : "vpa-webhook" ≠ "")
  stamped := ⟨_, config.releaseVersion, rfl⟩

theorem complete_desiredConfigMap :
    ManagedObject.Complete ⟨.configMap, desiredConfigMap config⟩ where
  named := rfl
  nonempty := (by decide : Operand.authorityConfigMap ≠ "")
  stamped := ⟨_, config.releaseVersion, rfl⟩

theorem complete_desiredObjects :
    ∀ desired ∈ desiredObjects owner config, desired.Complete := by
  intro desired member
  simp only [desiredObjects, List.mem_append, List.mem_map, List.mem_cons,
    List.not_mem_nil, or_false] at member
  rcases member with ⟨operand, -, rfl⟩ | rfl | rfl
  · exact complete_desiredDeployment owner config operand
  · exact complete_desiredService config
  · exact complete_desiredConfigMap config

theorem apart_desiredDeployment {left right : Operand} (different : left ≠ right) :
    ManagedObject.Apart ⟨.deployment, desiredDeployment left owner config⟩
      ⟨.deployment, desiredDeployment right owner config⟩ := by
  refine .inr fun same => different ?_
  have names : left.resourceName owner.displayName = right.resourceName owner.displayName :=
    congrArg ObjectKey.name same
  exact Operand.resourceName_injective names

theorem apart_desiredObjects : (desiredObjects owner config).Pairwise ManagedObject.Apart := by
  refine List.pairwise_append.mpr ⟨?_, ?_, ?_⟩
  · have distinct : Operand.all.Pairwise (· ≠ ·) := by decide
    exact List.pairwise_map.mpr (distinct.imp (apart_desiredDeployment owner config))
  · exact List.pairwise_pair.mpr (.inl Kind.noConfusion)
  · intro deployment member other rest
    obtain ⟨operand, -, rfl⟩ := List.mem_map.mp member
    simp only [List.mem_cons, List.not_mem_nil, or_false] at rest
    rcases rest with rfl | rfl <;> exact .inl Kind.noConfusion

end

end AutoscalerOperator
