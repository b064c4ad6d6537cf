import AutoscalerOperator.Proofs.Reconcile.Fixpoint

namespace AutoscalerOperator

open Kubernetes
open Relation (ReflTransGen)

/-- A pass that nobody interferes with, but any of whose calls may fail without an effect. -/
def Attempt (config : Config) (namespaceName name : String) (before after : Cluster) : Prop :=
  ∃ circumstances trace result, (reconcile config namespaceName name).Runs
    (Cluster.closedWorld circumstances) before trace result after

theorem attempt_run (config : Config) (namespaceName name : String) (s : Simulation) :
    Attempt config namespaceName name s.cluster
      ((reconcile config namespaceName name).run Simulation.handle s).2.cluster :=
  ⟨_, _, _, s.runs _⟩

theorem passed_passed_append (cluster : Cluster) (owner : AutoscalerController)
    {done rest : List ManagedObject} (complete : ∀ desired ∈ done ++ rest, desired.Complete)
    (apart : (done ++ rest).Pairwise ManagedObject.Apart) :
    (cluster.passed owner done).passed owner (done ++ rest) =
      cluster.passed owner (done ++ rest) := by
  -- The first objects are in line by then, so nothing is done on them again.
  have settled := Cluster.settled_passed cluster owner
    (fun desired member => complete desired (List.mem_append_left _ member))
    (List.pairwise_append.mp apart).1
  rw [Cluster.passed_append, Cluster.passed_of_settled owner settled, Cluster.passed_append]

section

variable {config : Config} {namespaceName name : String} {before after : Cluster}

theorem Attempt.reconciled (attempt : Attempt config namespaceName name before after)
    (keyed : before.Keyed) :
    after.reconciled config namespaceName name = before.reconciled config namespaceName name ∧
      after.Keyed ∧ after.failing = before.failing := by
  obtain ⟨circumstances, trace, result, run⟩ := attempt
  rcases reconcile_effect keyed run with rfl | ⟨rfl, owner, done, rest, stored, whole, rfl⟩
  · exact ⟨rfl, keyed, rfl⟩
  · have complete := complete_desiredObjects owner config
    have apart := apart_desiredObjects owner config
    rw [whole] at complete apart
    refine ⟨?_, ?_, Cluster.failing_passed before owner done⟩
    · simp only [Cluster.reconciled, if_true, Cluster.find?_passed_controller, stored, whole]
      exact passed_passed_append before owner complete apart
    · exact keyed.passed owner fun desired member =>
        complete desired (List.mem_append_left _ member)

theorem attempts_reconciled
    (attempts : ReflTransGen (Attempt config namespaceName name) before after)
    (keyed : before.Keyed) :
    after.reconciled config namespaceName name = before.reconciled config namespaceName name ∧
      after.Keyed ∧ after.failing = before.failing := by
  induction attempts with
  | refl => exact ⟨rfl, keyed, rfl⟩
  | tail _ attempt ih =>
    obtain ⟨same, keyed, failing⟩ := ih
    obtain ⟨again, keyed, still⟩ := attempt.reconciled keyed
    exact ⟨again.trans same, keyed, still.trans failing⟩

end

/-- After any number of attempts, a pass without failures leaves the very cluster that it would have
    left without them. -/
theorem reconcile_after_attempts (config : Config) (namespaceName name : String) {s t : Simulation}
    (keyed : s.cluster.Keyed) (untroubled : s.cluster.Untroubled s.circumstances)
    (attempts : ReflTransGen (Attempt config namespaceName name) s.cluster t.cluster)
    (calm : ∀ e, ¬t.circumstances.failures e) :
    ((reconcile config namespaceName name).run Simulation.handle t).2.cluster =
      ((reconcile config namespaceName name).run Simulation.handle s).2.cluster := by
  obtain ⟨same, still, failing⟩ := attempts_reconciled attempts keyed
  have working : t.cluster.failing = [] := failing.trans untroubled.working
  obtain ⟨-, retried⟩ := reconcile_untroubled still ⟨calm, working⟩
    (t.runs (reconcile config namespaceName name))
  obtain ⟨-, direct⟩ := reconcile_untroubled keyed untroubled
    (s.runs (reconcile config namespaceName name))
  rw [retried, direct, same]

def Simulation.trapped (s : Simulation) (traps : List Trap) : Simulation := { s with traps }

@[simp] theorem Simulation.cluster_trapped (s : Simulation) (traps : List Trap) :
    (s.trapped traps).cluster = s.cluster := rfl

theorem neglected_after_attempts :
    let refused := TrapEffect.fail (.service "refused")
    let attempt (s : Simulation) (traps : List Trap) : Simulation :=
      ((reconcile {} "here" "default").run Simulation.handle (s.trapped traps)).2
    let first := attempt .neglected [⟨.create, .deployment, 1, 1, refused⟩]
    let second := attempt first [⟨.create, .deployment, 0, 1, refused⟩]
    let third := attempt second [⟨.replace, .service, 0, 1, refused⟩]
    ((reconcile {} "here" "default").run Simulation.handle (third.trapped [])).2.cluster =
      ((reconcile {} "here" "default").run Simulation.handle .neglected).2.cluster := by
  intro refused attempt first second third
  have step (s : Simulation) (traps : List Trap) :
      Attempt {} "here" "default" s.cluster (attempt s traps).cluster :=
    attempt_run {} "here" "default" (s.trapped traps)
  have attempts : ReflTransGen (Attempt {} "here" "default") Simulation.neglected.cluster
      third.cluster :=
    ((ReflTransGen.single (step .neglected [⟨.create, .deployment, 1, 1, refused⟩])).tail
      (step first [⟨.create, .deployment, 0, 1, refused⟩])).tail
      (step second [⟨.replace, .service, 0, 1, refused⟩])
  clear_value third
  rw [← Simulation.cluster_trapped third []] at attempts
  exact reconcile_after_attempts {} "here" "default" Simulation.keyed_neglected
    (Simulation.untroubled rfl rfl) attempts (Simulation.calm_of_free rfl)

end AutoscalerOperator
