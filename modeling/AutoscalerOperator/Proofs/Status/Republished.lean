import AutoscalerOperator.Proofs.Status.Applied
import AutoscalerOperator.Proofs.Status.OwnMetadata

namespace AutoscalerOperator

open Kubernetes Program

namespace Cluster

def owners (cluster : Cluster) : List OwnerReference :=
  cluster.opened.1.metadata.ownerReferences.getD []

variable {cluster : Cluster}

theorem changed_merging_iff (config : Config) (reported : ClusterOperatorStatus) (now : Instant) :
    (cluster.merging config reported now).changed = true ↔
      semanticEq cluster.published? (some (completedStatus config
        (cluster.published?.getD {}) reported now)) = false ∨ ¬OwnersAgree cluster.owners := by
  have own := (mergedIntoItself_mergeMetadata cluster.opened.1.metadata false).changed
  simp only [Merged.andThen, Bool.false_or, Bool.false_eq_true, false_or] at own
  rw [changed_merging_eq, Bool.or_eq_true_iff, own, nextStatus, changed_mergeStatus,
    semanticEq_published?, Bool.not_eq_true', or_comm]
  rfl

theorem owners_applied (config : Config) (reported : ClusterOperatorStatus) (now : Instant) :
    (cluster.applied config reported now).owners = cluster.owners := by
  obtain ⟨next, found, metadata⟩ := cluster.find?_applied config reported now
  have opened : (cluster.applied config reported now).opened.1 = next := by
    rw [Cluster.opened, found]
  rw [owners, owners, opened, metadata]

theorem told_applied (cluster : Cluster) (config : Config) (checked : Except Error Bool)
    (now later : Instant) :
    let after := cluster.applied config (statusOf config checked) now
    semanticEq after.published? (some (completedStatus config (after.published?.getD {})
      (statusOf config checked) later)) = true := by
  intro after
  let published :=
    (nextStatus config (statusOf config checked) now cluster.published?).value.recognized
  have again : (mergeStatus published
      (completedStatus config published (statusOf config checked) later)).changed = false :=
    mergeStatus_again (reportable_statusOf config checked) config _ now later
  have same : after.published?.getD {} = published := cluster.published?_applied ..
  rw [changed_mergeStatus, Bool.not_eq_false'] at again
  rw [semanticEq_published?, same, again]

end Cluster

/-- Metadata that are merged into themselves stay as they are just if references to one owner agree.
    Where they do not, a status is published by one write even if it is published already, and the
    references are left as they are, so that it is the same the next time. -/
theorem own_metadata_merged (m : ObjectMeta) (modified : Bool) {s : Simulation} (config : Config)
    (reported : ClusterOperatorStatus) (undisturbed : s.Undisturbed .clusterOperator)
    (named : s.cluster.Named) :
    MergedIntoItself m modified ((Merged.mk m modified).andThen (mergeMetadata · m)) ∧
    ∃ required written final,
      (∀ status, Required config (s.cluster.published?.getD {}) reported s.clock status ↔
        status = required) ∧
      (written = true ↔ semanticEq s.cluster.published? (some required) = false ∨
        ¬OwnersAgree s.cluster.owners) ∧
      (applyStatus config reported).run Simulation.handle s = (.ok (), s.after
        (s.cluster.openingCalls ++ if written then [operatorCall .replaceStatus none] else [])
        final) ∧
      final.owners = s.cluster.owners := by
  refine ⟨mergedIntoItself_mergeMetadata m modified, ?_⟩
  exact ⟨_, _, _, fun status => required_iff.trans eq_comm,
    Cluster.changed_merging_iff config reported s.clock,
    applyStatus_run undisturbed named config reported, Cluster.owners_applied ..⟩

def Simulation.contested : Simulation where
  cluster := ({} : Cluster).insert .clusterOperator
    { metadata := { name := operatorName, ownerReferences := rivals } }
  clock := default

theorem Simulation.undisturbed_contested : contested.Undisturbed .clusterOperator :=
  ⟨rfl, nofun, fun verb => by cases verb <;> decide⟩

theorem Simulation.named_contested : contested.cluster.Named := by
  rintro operator ⟨⟩
  rfl

/-- The status that has just been published is published again. -/
theorem contested_published_again :
    let program := applyStatus {} (availableStatus {})
    let published := (program.run Simulation.handle .contested).2
    let m := published.cluster.opened.1.metadata
    published.Undisturbed .clusterOperator ∧ published.cluster.Named ∧
    MergedIntoItself m false ((Merged.mk m false).andThen (mergeMetadata · m)) ∧
    ∃ required final,
      (∀ status, Required {} (published.cluster.published?.getD {}) (availableStatus {})
        published.clock status ↔ status = required) ∧
      semanticEq published.cluster.published? (some required) = true ∧
      program.run Simulation.handle published = (.ok (), published.after
        [operatorCall .get none, operatorCall .replaceStatus none] final) := by
  intro program published m
  have untrapped : published.traps = [] := rfl
  have undisturbed : published.Undisturbed .clusterOperator :=
    ⟨rfl, by simp [untrapped], fun verb => by cases verb <;> decide⟩
  have named : published.cluster.Named := by
    rintro operator ⟨⟩
    rfl
  have disagree : ¬OwnersAgree published.cluster.owners := rivals_disagree
  obtain ⟨merged, required, written, final, unique, writes, run, -⟩ :=
    own_metadata_merged m false {} (availableStatus {}) undisturbed named
  have applied : published.cluster = Simulation.contested.cluster.applied {} (availableStatus {})
      default := congrArg (fun outcome => outcome.2.cluster) (applyStatus_run
        Simulation.undisturbed_contested Simulation.named_contested {} (availableStatus {}))
  have told : semanticEq published.cluster.published? (some required) = true := by
    rw [← (unique _).mp (required_iff.mpr rfl), applied]
    exact Simulation.contested.cluster.told_applied {} (.ok true) default default
  rw [writes.mpr (.inr disagree)] at run
  exact ⟨undisturbed, named, merged, required, final, unique, told, run⟩

end AutoscalerOperator
