import AutoscalerOperator.Proofs.Managed.Owned

namespace AutoscalerOperator

open Kubernetes

namespace Cluster

variable {cluster after : Cluster} {owner : AutoscalerController} {desired other : ManagedObject}

/-- Whether an owned object is there and nothing is left to do on it. -/
def Settled (cluster : Cluster) (desired : ManagedObject) : Prop :=
  ∃ current, cluster.find? desired.managed.kind desired.key = some current ∧
    (desired.managed.converge current desired.object).changed = false

def brought (cluster : Cluster) (owner : AutoscalerController) (desired : ManagedObject) :
    Cluster :=
  let kind := desired.managed.kind
  match cluster.find? kind desired.key with
  | none =>
    cluster.write kind desired.key (cluster.created kind (ownedBy owner kind desired.object))
  | some current =>
    let converged := desired.managed.converge current desired.object
    if converged.changed then
      cluster.write kind desired.key (cluster.replaced kind current converged.value)
    else cluster

theorem brought_of_missing (owner : AutoscalerController)
    (missing : cluster.find? desired.managed.kind desired.key = none) :
    cluster.brought owner desired = cluster.write desired.managed.kind desired.key
      (cluster.created desired.managed.kind (ownedBy owner desired.managed.kind desired.object)) := by
  simp only [brought, missing]

theorem brought_of_drifted (owner : AutoscalerController) {current : desired.managed.Object}
    (found : cluster.find? desired.managed.kind desired.key = some current)
    (drifted : (desired.managed.converge current desired.object).changed = true) :
    cluster.brought owner desired = cluster.write desired.managed.kind desired.key
      (cluster.replaced desired.managed.kind current
        (desired.managed.converge current desired.object).value) := by
  simp only [brought, found, drifted, if_true]

theorem brought_eq_write_or_self (cluster : Cluster) (owner : AutoscalerController)
    (desired : ManagedObject) :
    (∃ object, cluster.brought owner desired =
      cluster.write desired.managed.kind desired.key object) ∨
      cluster.brought owner desired = cluster := by
  unfold brought
  dsimp only
  split
  · exact .inl ⟨_, rfl⟩
  · split
    · exact .inl ⟨_, rfl⟩
    · exact .inr rfl

@[simp] theorem failing_brought (cluster : Cluster) (owner : AutoscalerController)
    (desired : ManagedObject) : (cluster.brought owner desired).failing = cluster.failing := by
  rcases brought_eq_write_or_self cluster owner desired with ⟨object, same⟩ | same <;> rw [same]
  rfl

theorem find?_brought_of_ne {kind : Kind} {key : ObjectKey}
    (different : desired.managed.kind ≠ kind ∨ desired.key ≠ key) :
    (cluster.brought owner desired).find? kind key = cluster.find? kind key := by
  rcases brought_eq_write_or_self cluster owner desired with ⟨object, same⟩ | same <;> rw [same]
  exact find?_write_of_ne cluster object different

theorem Settled.brought_eq (settled : cluster.Settled desired) :
    cluster.brought owner desired = cluster := by
  obtain ⟨current, found, same⟩ := settled
  simp [brought, found, same]

theorem Untroubled.brought {circumstances : Circumstances}
    (untroubled : cluster.Untroubled circumstances) (owner : AutoscalerController)
    (desired : ManagedObject) : (cluster.brought owner desired).Untroubled circumstances :=
  ⟨untroubled.calm, (failing_brought cluster owner desired).trans untroubled.working⟩

theorem converge_created (complete : desired.Complete) :
    (desired.managed.converge (cluster.created desired.managed.kind
      (ownedBy owner desired.managed.kind desired.object)) desired.object).changed = false := by
  obtain ⟨plain, release, stamped⟩ := complete.stamped
  unfold created
  dsimp only
  rw [ManagedKind.converge_changed_withMetadata _ _ _ (by simp),
    ManagedKind.converge_changed_withoutStatus, converge_changed_ownedBy, stamped]
  exact ManagedKind.converge_stamped plain release

theorem converge_replaced (current : desired.managed.Object) :
    (desired.managed.converge (cluster.replaced desired.managed.kind current
      (desired.managed.converge current desired.object).value) desired.object).changed = false := by
  unfold replaced
  dsimp only
  rw [ManagedKind.converge_changed_withMetadata _ _ _ (by simp),
    ManagedKind.converge_changed_withStatusOf]
  exact ManagedKind.converge_again current desired.object

theorem settled_brought (cluster : Cluster) (owner : AutoscalerController)
    (complete : desired.Complete) : (cluster.brought owner desired).Settled desired := by
  cases found : cluster.find? desired.managed.kind desired.key with
  | none =>
    rw [brought_of_missing owner found]
    exact ⟨_, find?_created .., converge_created complete⟩
  | some current =>
    cases drifted : (desired.managed.converge current desired.object).changed with
    | true =>
      rw [brought_of_drifted owner found drifted]
      exact ⟨_, find?_replaced _ found, converge_replaced current⟩
    | false =>
      have settled : cluster.Settled desired := ⟨current, found, drifted⟩
      rw [settled.brought_eq]
      exact settled

theorem keyOf_ownedBy (owner : AutoscalerController) (complete : desired.Complete) :
    keyOf desired.managed.kind (ownedBy owner desired.managed.kind desired.object) =
      .ok desired.key := by
  obtain ⟨references, metadata⟩ := metadata_ownedBy owner desired.managed.kind desired.object
  refine keyOf_of_names (complete.names ?_ ?_) complete.nonempty <;> rw [metadata]

theorem keyOf_converge (complete : desired.Complete) (keyed : cluster.Keyed)
    {current : desired.managed.Object}
    (found : cluster.find? desired.managed.kind desired.key = some current) :
    keyOf desired.managed.kind (desired.managed.converge current desired.object).value =
      .ok desired.key := by
  obtain ⟨annotations, metadata⟩ := desired.managed.metadata_converge current desired.object
  refine keyOf_of_names ?_ complete.nonempty
  unfold ObjectKey.Names
  rw [metadata]
  exact keyed _ _ _ found

theorem Keyed.brought (keyed : cluster.Keyed) (owner : AutoscalerController)
    (complete : desired.Complete) : (cluster.brought owner desired).Keyed := by
  unfold Cluster.brought
  dsimp only
  split
  · refine keyed.write ?_
    have names := names_of_keyOf (keyOf_ownedBy owner complete)
    simpa [ObjectKey.Names, created] using names
  · rename_i current found
    split
    · refine keyed.write ?_
      have names := names_of_keyOf (keyOf_converge complete keyed found)
      simpa [ObjectKey.Names, replaced] using names
    · exact keyed

theorem create_ownedBy (complete : desired.Complete) {stored : desired.managed.Object}
    (made : cluster.create desired.managed.kind
      (ownedBy owner desired.managed.kind desired.object) = .ok (stored, after)) :
    after = cluster.brought owner desired := by
  obtain ⟨key, keyed, missing, -, rfl⟩ := create_eq_ok made
  rw [keyOf_ownedBy owner complete] at keyed
  cases keyed
  exact (brought_of_missing owner missing).symm

theorem replace_converged (complete : desired.Complete) (keyed : cluster.Keyed)
    {current stored : desired.managed.Object}
    (found : cluster.find? desired.managed.kind desired.key = some current)
    (drifted : (desired.managed.converge current desired.object).changed = true)
    (written : cluster.replace desired.managed.kind
      (desired.managed.converge current desired.object).value = .ok (stored, after)) :
    after = cluster.brought owner desired := by
  obtain ⟨key, existing, own, stands, -, -, rfl⟩ := update_eq_ok written
  rw [keyOf_converge complete keyed found] at own
  cases own
  rw [found] at stands
  cases stands
  exact (brought_of_drifted owner found drifted).symm

theorem create_ownedBy_succeeds (owner : AutoscalerController) (complete : desired.Complete)
    (working : cluster.failing = [])
    (missing : cluster.find? desired.managed.kind desired.key = none) :
    ∃ outcome, cluster.create desired.managed.kind
      (ownedBy owner desired.managed.kind desired.object) = .ok outcome :=
  ⟨_, create_of_missing (by simp [working]) (keyOf_ownedBy owner complete) missing⟩

theorem replace_converged_succeeds (complete : desired.Complete) (keyed : cluster.Keyed)
    (working : cluster.failing = []) {current : desired.managed.Object}
    (found : cluster.find? desired.managed.kind desired.key = some current) :
    ∃ outcome, cluster.replace desired.managed.kind
      (desired.managed.converge current desired.object).value = .ok outcome := by
  obtain ⟨annotations, metadata⟩ := desired.managed.metadata_converge current desired.object
  have same : isCurrent desired.managed.kind current
      (desired.managed.converge current desired.object).value = true :=
    isCurrent_of_resourceVersion (by rw [metadata])
  exact ⟨_, update_of_current _ (by simp [working]) (keyOf_converge complete keyed found) found same⟩

end Cluster

end AutoscalerOperator
