import AutoscalerOperator.Proofs.Execution.Undisturbed
import AutoscalerOperator.Proofs.Status.Published
import AutoscalerOperator.Proofs.Status.Required
import AutoscalerOperator.Proofs.Status.Unchanged

namespace AutoscalerOperator

open Kubernetes Program

def operatorCall (verb : Verb) (failure : Option Error) : LoggedCall :=
  ⟨verb, .clusterOperator, none, some operatorName, failure⟩

namespace Cluster

/-- The object to publish in, which is created if there is none, and the cluster with it. -/
def opened (cluster : Cluster) : ClusterOperator × Cluster :=
  match cluster.find? .clusterOperator operatorKey with
  | some (operator : ClusterOperator) => (operator, cluster)
  | none =>
    let created : ClusterOperator := cluster.created .clusterOperator .fresh
    (created, cluster.write .clusterOperator operatorKey created)

def openingCalls (cluster : Cluster) : List LoggedCall :=
  match cluster.find? .clusterOperator operatorKey with
  | some _ => [operatorCall .get none]
  | none =>
    [operatorCall .get (some (notFound .clusterOperator operatorName)), operatorCall .create none]

def merging (cluster : Cluster) (config : Config) (reported : ClusterOperatorStatus)
    (now : Instant) : Merged ClusterOperator :=
  cluster.opened.1.reporting config reported now

def applied (cluster : Cluster) (config : Config) (reported : ClusterOperatorStatus)
    (now : Instant) : Cluster :=
  let merged := cluster.merging config reported now
  if merged.changed then
    cluster.opened.2.write .clusterOperator operatorKey
      (cluster.opened.2.restated .clusterOperator cluster.opened.1 merged.value)
  else cluster.opened.2

variable {cluster : Cluster}

theorem failing_opened (cluster : Cluster) : cluster.opened.2.failing = cluster.failing := by
  unfold opened
  split <;> rfl

theorem find?_opened (cluster : Cluster) :
    cluster.opened.2.find? .clusterOperator operatorKey = some cluster.opened.1 := by
  unfold opened
  split
  · assumption
  · exact find?_created ..

theorem keyOf_opened (named : cluster.Named) :
    keyOf .clusterOperator cluster.opened.1 = .ok operatorKey := by
  unfold opened
  split
  · rename_i found
    exact named _ found
  · rfl

theorem status_opened (cluster : Cluster) : cluster.opened.1.status = cluster.published? := by
  unfold opened published?
  split
  · rename_i found
    rw [found]
    rfl
  · rename_i missing
    rw [missing]
    rfl

end Cluster

section

variable {s : Simulation}

theorem getOrCreateClusterOperator_run (undisturbed : s.Undisturbed .clusterOperator) :
    getOrCreateClusterOperator.run Simulation.handle s =
      (.ok s.cluster.opened.1, s.after s.cluster.openingCalls s.cluster.opened.2) := by
  unfold Cluster.opened Cluster.openingCalls
  cases stored : s.cluster.find? .clusterOperator operatorKey with
  | some operator => exact run_ask (Simulation.get_undisturbed undisturbed stored)
  | none =>
    refine (run_ask (Simulation.get_undisturbed_missing undisturbed stored)).trans ?_
    let told : Simulation := s.after
      [operatorCall .get (some (Cluster.notFound .clusterOperator operatorName))] s.cluster
    have again : told.Undisturbed .clusterOperator := undisturbed.after _ rfl
    have fresh : Cluster.keyOf .clusterOperator ClusterOperator.fresh = .ok operatorKey := rfl
    refine (Simulation.create_undisturbed again fresh stored).trans ?_
    rw [Simulation.after_after]
    rfl

theorem applyStatus_run (undisturbed : s.Undisturbed .clusterOperator) (named : s.cluster.Named)
    (config : Config) (reported : ClusterOperatorStatus) :
    (applyStatus config reported).run Simulation.handle s = (.ok (), s.after
      (s.cluster.openingCalls ++ if (s.cluster.merging config reported s.clock).changed then
        [operatorCall .replaceStatus none] else [])
      (s.cluster.applied config reported s.clock)) := by
  let opened : Simulation := s.after s.cluster.openingCalls s.cluster.opened.2
  let merged := s.cluster.merging config reported s.clock
  have further : opened.Undisturbed .clusterOperator :=
    undisturbed.after _ s.cluster.failing_opened
  refine (run_ask (Simulation.cancelled_undisturbed undisturbed)).trans ?_
  rw [if_neg Bool.false_ne_true, run_bind, getOrCreateClusterOperator_run undisturbed]
  change Program.run _ (if merged.changed then _ else _) opened = _
  cases changed : merged.changed with
  | false =>
    have same : s.cluster.applied config reported s.clock = s.cluster.opened.2 :=
      if_neg (by simp [merged, changed])
    rw [same, if_neg Bool.false_ne_true, if_neg Bool.false_ne_true, List.append_nil]
    rfl
  | true =>
    have own := ClusterOperator.keyOf_reporting (Cluster.keyOf_opened named) config reported s.clock
    have current : Cluster.isCurrent .clusterOperator s.cluster.opened.1 merged.value = true :=
      Cluster.isCurrent_of_resourceVersion
        (s.cluster.opened.1.metadata_reporting config reported s.clock).2.2
    have next : s.cluster.applied config reported s.clock =
        s.cluster.opened.2.write .clusterOperator operatorKey
          (s.cluster.opened.2.restated .clusterOperator s.cluster.opened.1 merged.value) :=
      if_pos changed
    rw [next, if_pos rfl, if_pos rfl, ← Simulation.after_after]
    refine (run_ask (Simulation.cancelled_undisturbed further)).trans ?_
    rw [if_neg Bool.false_ne_true]
    exact run_ask (Simulation.replaceStatus_undisturbed further own s.cluster.find?_opened current)

end

namespace Cluster

structure Publishes (required : ClusterOperatorStatus) (before after : Cluster) : Prop where
  told : semanticEq after.published? (some required) = true
  kept : ∀ operator, before.find? .clusterOperator operatorKey = some operator →
    semanticEq before.published? (some required) = true → after = before
  metadata : ∀ operator : ClusterOperator,
    before.find? .clusterOperator operatorKey = some operator →
    ∃ next : ClusterOperator, after.find? .clusterOperator operatorKey = some next ∧
      next.metadata = { operator.metadata with
        resourceVersion := next.metadata.resourceVersion }
  created : before.find? .clusterOperator operatorKey = none →
    ∃ next : ClusterOperator, after.find? .clusterOperator operatorKey = some next ∧
      next.metadata = {
        name := some operatorName
        resourceVersion := next.metadata.resourceVersion
        generation := some 1
        uid := some ("uid-" ++ before.version) }
  elsewhere : ∀ kind key, kind ≠ .clusterOperator ∨ key ≠ operatorKey →
    after.find? kind key = before.find? kind key

variable {cluster : Cluster}

theorem semanticEq_published? (status : Option ClusterOperatorStatus)
    (required : ClusterOperatorStatus) :
    semanticEq status (some required) = semanticEq (status.getD {}) required := by
  cases status <;> rfl

theorem changed_merging_eq (cluster : Cluster) (config : Config) (reported : ClusterOperatorStatus)
    (now : Instant) : (cluster.merging config reported now).changed =
      ((mergeMetadata cluster.opened.1.metadata cluster.opened.1.metadata).changed ||
        (nextStatus config reported now cluster.published?).changed) := by
  rw [← status_opened]
  rfl

theorem changed_merging (distinct : cluster.HasDistinctOwners) (config : Config)
    (reported : ClusterOperatorStatus) (now : Instant) :
    (cluster.merging config reported now).changed = !semanticEq cluster.published?
      (some (completedStatus config (cluster.published?.getD {}) reported now)) := by
  have owners : DistinctOwners (cluster.opened.1.metadata.ownerReferences.getD []) := by
    unfold opened
    split
    · exact distinct _ (by assumption)
    · exact List.Pairwise.nil
  rw [changed_merging_eq, mergeMetadata_unchanged owners, Bool.false_or, nextStatus,
    changed_mergeStatus, semanticEq_published?]

theorem published?_applied (cluster : Cluster) (config : Config) (reported : ClusterOperatorStatus)
    (now : Instant) : (cluster.applied config reported now).published?.getD {} =
      (nextStatus config reported now cluster.published?).value.recognized := by
  unfold applied
  cases changed : (cluster.merging config reported now).changed with
  | true =>
    rw [if_pos changed, published?_of_find? (find?_restated ..), ← status_opened]
    rfl
  | false =>
    rw [if_neg (by simp [changed]), published?_of_find? cluster.find?_opened, status_opened]
    rw [changed_merging_eq] at changed
    rw [nextStatus, mergeStatus_of_unchanged (Bool.or_eq_false_iff.mp changed).2,
      recognized_published]

theorem find?_applied_of_ne {kind : Kind} {key : ObjectKey} (cluster : Cluster) (config : Config)
    (reported : ClusterOperatorStatus) (now : Instant)
    (elsewhere : kind ≠ .clusterOperator ∨ key ≠ operatorKey) :
    (cluster.applied config reported now).find? kind key = cluster.find? kind key := by
  have apart : .clusterOperator ≠ kind ∨ operatorKey ≠ key := elsewhere.imp Ne.symm Ne.symm
  have opened : cluster.opened.2.find? kind key = cluster.find? kind key := by
    unfold Cluster.opened
    split
    · rfl
    · exact find?_write_of_ne cluster _ apart
  unfold applied
  dsimp only
  split
  · rw [find?_write_of_ne _ _ apart, opened]
  · exact opened

theorem find?_applied (cluster : Cluster) (config : Config) (reported : ClusterOperatorStatus)
    (now : Instant) : ∃ next : ClusterOperator,
      (cluster.applied config reported now).find? .clusterOperator operatorKey = some next ∧
        next.metadata = { cluster.opened.1.metadata with
          resourceVersion := next.metadata.resourceVersion } := by
  unfold applied
  dsimp only
  split
  · exact ⟨_, find?_restated .., rfl⟩
  · exact ⟨_, cluster.find?_opened, rfl⟩

theorem publishes_applied (distinct : cluster.HasDistinctOwners)
    (config : Config) (reported : ClusterOperatorStatus) (now : Instant) :
    cluster.Publishes (completedStatus config (cluster.published?.getD {}) reported now)
      (cluster.applied config reported now) where
  told := by
    rw [semanticEq_published?, published?_applied, semanticEq,
      ClusterOperatorStatus.toJson_recognized]
    exact semanticEq_mergeStatus ..
  kept operator stored same := by
    have unchanged := changed_merging distinct config reported now
    rw [same] at unchanged
    have kept : cluster.applied config reported now = cluster.opened.2 :=
      if_neg (by simp [unchanged])
    rw [kept, opened, stored]
  metadata operator stored := by
    obtain ⟨next, found, metadata⟩ := cluster.find?_applied config reported now
    rw [opened, stored] at metadata
    exact ⟨next, found, metadata⟩
  created missing := by
    obtain ⟨next, found, metadata⟩ := cluster.find?_applied config reported now
    rw [opened, missing] at metadata
    exact ⟨next, found, metadata⟩
  elsewhere kind key := cluster.find?_applied_of_ne config reported now

end Cluster

/-- When no call fails and the operator is not told to stop, a status is published by one write, if
    it says anything that the published one does not, and by none otherwise. Just one status is
    required: what was reported, with what that leaves open. -/
theorem applyStatus_publishes {s : Simulation} (config : Config) (reported : ClusterOperatorStatus)
    (undisturbed : s.Undisturbed .clusterOperator) (named : s.cluster.Named)
    (distinct : s.cluster.HasDistinctOwners) :
    ∃ required final,
      (∀ status, Required config (s.cluster.published?.getD {}) reported s.clock status ↔
        status = required) ∧
      (applyStatus config reported).run Simulation.handle s = (.ok (), s.after
        (s.cluster.openingCalls ++ if semanticEq s.cluster.published? (some required) then []
          else [operatorCall .replaceStatus none]) final) ∧
      s.cluster.Publishes required final := by
  refine ⟨_, _, fun status => required_iff.trans eq_comm, ?_,
    Cluster.publishes_applied distinct config reported s.clock⟩
  rw [applyStatus_run undisturbed named config reported,
    Cluster.changed_merging distinct config reported s.clock]
  cases semanticEq s.cluster.published? (some (completedStatus config
    (s.cluster.published?.getD {}) reported s.clock)) <;> rfl

theorem Simulation.undisturbed_foreign : foreign.Undisturbed .clusterOperator :=
  ⟨rfl, nofun, fun verb => by cases verb <;> decide⟩

theorem Simulation.named_foreign : foreign.cluster.Named := by
  rintro operator ⟨⟩
  rfl

theorem foreign_publishes :
    ∃ required final,
      (∀ status, Required {} (Simulation.foreign.cluster.published?.getD {}) (availableStatus {})
        default status ↔ status = required) ∧
      (applyStatus {} (availableStatus {})).run Simulation.handle .foreign =
        (.ok (), Simulation.foreign.after [operatorCall .get none, operatorCall .replaceStatus none]
          final) ∧
      Simulation.foreign.cluster.Publishes required final := by
  obtain ⟨required, final, unique, run, publishes⟩ :=
    applyStatus_publishes {} (availableStatus {}) Simulation.undisturbed_foreign
      Simulation.named_foreign Simulation.distinct_foreign
  have differs : semanticEq Simulation.foreign.cluster.published? (some required) = false := by
    rw [← (unique _).mp (required_iff.mpr rfl)]
    rfl
  rw [differs] at run
  exact ⟨required, final, unique, run, publishes⟩

end AutoscalerOperator
