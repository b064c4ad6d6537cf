import AutoscalerOperator.Proofs.Execution.Simulated
import AutoscalerOperator.Proofs.Reconcile.Pass

namespace AutoscalerOperator

open Kubernetes

/-- One pass brings everything in line that an instance owns, whatever was there before. From then
    on passes only read. -/
theorem reconcile_reaches_fixpoint (config : Config) (namespaceName : String) {s : Simulation}
    {owner : AutoscalerController} (keyed : s.cluster.Keyed)
    (untroubled : s.cluster.Untroubled s.circumstances)
    (stored : s.cluster.find? .controller ⟨some namespaceName, config.name⟩ = some owner) :
    let first := (reconcile config namespaceName config.name).run Simulation.handle s
    first.1 = .ok () ∧
      (∀ operand, first.2.cluster.Settled ⟨.deployment, desiredDeployment operand owner config⟩) ∧
      first.2.cluster.Settled ⟨.service, desiredService config⟩ ∧
      first.2.cluster.Settled ⟨.configMap, desiredConfigMap config⟩ ∧
      ∀ t : Simulation, t.cluster = first.2.cluster → t.cluster.Untroubled t.circumstances →
        let next := (reconcile config namespaceName config.name).run Simulation.handle t
        next.1 = .ok () ∧ next.2.cluster = t.cluster ∧ next.2.events = t.events ∧
          ∃ calls, next.2.log = t.log ++ calls ∧ ∀ call ∈ calls, call.verb = .get := by
  intro first
  have complete := complete_desiredObjects owner config
  obtain ⟨succeeded, effect⟩ :=
    reconcile_untroubled keyed untroubled (s.runs (reconcile config namespaceName config.name))
  have passed : first.2.cluster = s.cluster.passed owner (desiredObjects owner config) := by
    simpa only [Cluster.reconciled, if_true, stored] using effect
  have settled : ∀ desired ∈ desiredObjects owner config, first.2.cluster.Settled desired := by
    rw [passed]
    exact Cluster.settled_passed s.cluster owner complete (apart_desiredObjects owner config)
  refine ⟨succeeded, fun operand => settled _ ?_, settled _ ?_, settled _ ?_, ?_⟩
  · cases operand <;> simp [desiredObjects, Operand.all]
  · simp [desiredObjects]
  · simp [desiredObjects]
  intro t same untroubled next
  have still : t.cluster.find? .controller ⟨some namespaceName, config.name⟩ = some owner := by
    rw [same, passed, Cluster.find?_passed_controller, stored]
  rw [← same] at settled
  have keyed : t.cluster.Keyed := by
    rw [same, passed]
    exact keyed.passed owner complete
  have run := t.runs (reconcile config namespaceName config.name)
  have reads := reconcile_quiet untroubled still settled run
  obtain ⟨succeeded, effect⟩ := reconcile_untroubled keyed untroubled run
  obtain ⟨events, log⟩ := t.records_of_reads _ reads
  refine ⟨succeeded, ?_, events, log⟩
  have unchanged := Cluster.passed_of_settled owner settled
  simpa only [Cluster.reconciled, if_true, still, unchanged] using effect

/-- A cluster with an instance, in which the webhook's service has lost its ports. -/
def Simulation.neglected : Simulation where
  cluster :=
    (({} : Cluster).insert .controller (AutoscalerController.defaultInstance "default" "here")).insert
      .service {
        metadata := { name := "vpa-webhook", namespaceName := ({} : Config).operandNamespace } }
  clock := default

theorem Simulation.keyed_neglected : Simulation.neglected.cluster.Keyed := by
  dsimp only [Simulation.neglected]
  exact (Cluster.keyed_empty.insert .controller _).insert .service _

theorem neglected_reaches_fixpoint :
    let first := (reconcile {} "here" "default").run Simulation.handle .neglected
    first.1 = .ok () ∧ first.2.cluster.Settled ⟨.service, desiredService {}⟩ := by
  intro first
  have fixpoint := reconcile_reaches_fixpoint {} "here" Simulation.keyed_neglected
    (Simulation.untroubled rfl rfl) rfl
  exact ⟨fixpoint.1, fixpoint.2.2.1⟩

end AutoscalerOperator
