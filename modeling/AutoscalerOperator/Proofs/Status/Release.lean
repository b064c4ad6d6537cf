import AutoscalerOperator.Proofs.Reconcile.Pass
import AutoscalerOperator.Proofs.Status.Unchanged

namespace AutoscalerOperator

open Kubernetes Program Cluster
open Relation (ReflTransGen)

def Config.recommenderKey (config : Config) : ObjectKey :=
  ⟨some config.operandNamespace, Operand.recommender.resourceName config.name⟩

namespace Kubernetes.Deployment

def generation (d : Deployment) : Int64 := d.metadata.generation.getD 0

def observed (d : Deployment) : Int64 := (d.status.bind (·.observedGeneration)).getD 0

/-- Whether a deployment has rolled out what it asks for: the status is about what is asked for now,
    no pod is of an earlier rollout, and there are as many as are asked for, and some at all. -/
structure RolledOut (d : Deployment) : Prop where
  observed : d.generation ≤ d.observed
  updated : (d.status.bind (·.updatedReplicas)).getD 0 = (d.status.bind (·.replicas)).getD 0
  running : (d.spec.bind (·.replicas)).getD 1 ≤ (d.status.bind (·.updatedReplicas)).getD 0
  available : (d.spec.bind (·.replicas)).getD 1 ≤ (d.status.bind (·.availableReplicas)).getD 0
  some : 0 < (d.status.bind (·.availableReplicas)).getD 0

theorem isRolledOut_iff {d : Deployment} : d.isRolledOut = true ↔ d.RolledOut := by
  unfold isRolledOut
  cases seen : d.status with
  | none =>
    refine iff_of_false Bool.false_ne_true fun rolledOut => ?_
    have some := rolledOut.some
    rw [seen] at some
    exact absurd some (by decide)
  | some status =>
    simp only [Bool.and_eq_true, decide_eq_true_eq, beq_iff_eq]
    constructor
    · rintro ⟨⟨⟨⟨observed, updated⟩, running⟩, available⟩, some⟩
      constructor <;> simpa [seen, generation, Deployment.observed]
    · rintro ⟨observed, updated, running, available, some⟩
      simp only [seen, Option.bind_some, generation, Deployment.observed]
        at observed updated running available some
      exact ⟨⟨⟨⟨observed, updated⟩, running⟩, available⟩, some⟩

/-- Whether a deployment of a single pod has rolled out what it asks for, by its status. -/
structure Reached (d : Deployment) : Prop where
  observed : d.generation ≤ d.observed
  updated : (d.status.bind (·.updatedReplicas)).getD 0 = (d.status.bind (·.replicas)).getD 0
  running : 1 ≤ (d.status.bind (·.updatedReplicas)).getD 0
  available : 1 ≤ (d.status.bind (·.availableReplicas)).getD 0

theorem isRolledOut_iff_reached {d : Deployment} (single : d.spec.bind (·.replicas) = some 1) :
    d.isRolledOut = true ↔ d.Reached := by
  rw [isRolledOut_iff]
  constructor
  · rintro ⟨observed, updated, running, available, -⟩
    rw [single] at running available
    exact ⟨observed, updated, running, available⟩
  · rintro ⟨observed, updated, running, available⟩
    refine ⟨observed, updated, ?_, ?_, Int32.lt_of_lt_of_le (by decide) available⟩ <;>
    · rw [single]
      assumption

theorem not_isRolledOut_of_lag {d : Deployment} (lag : d.observed < d.generation) :
    d.isRolledOut = false := by
  refine Bool.eq_false_iff.mpr fun rolledOut => ?_
  exact absurd (isRolledOut_iff.mp rolledOut).observed (Int64.not_le.mpr lag)

end Kubernetes.Deployment

theorem recommender_of_unchanged {current : Deployment} {owner : AutoscalerController}
    {config : Config}
    (same : (convergeDeployment current (desiredDeployment .recommender owner config)).changed =
      false) :
    current.spec.bind (·.replicas) = some 1 ∧
      current.metadata.isAtRelease config.releaseVersion = true := by
  rw [← convergeDeployment_unchanged same]
  refine ⟨rfl, ?_⟩
  have release : (desiredDeployment .recommender owner config).metadata.release =
      config.releaseVersion := ObjectMeta.release_stamped ..
  have stamped : (convergeDeployment current
      (desiredDeployment .recommender owner config)).value.metadata =
        current.metadata.stamped config.releaseVersion := by
    rw [← release]
    rfl
  rw [stamped]
  simp [ObjectMeta.isAtRelease, (ObjectMeta.annotation?_stamped ..).2]

section

variable {circumstances : Circumstances} {config : Config} {cluster start final : Cluster}
  {owner : AutoscalerController} {trace : List (Exchange Cluster)}

theorem checked_iff_reached {deployment : Deployment}
    (stored : cluster.find? .controller ⟨some config.watchNamespace, config.name⟩ = some owner)
    (found : cluster.find? .deployment config.recommenderKey = some deployment)
    (controllers : (.get, .controller) ∉ cluster.failing)
    (deployments : (.get, .deployment) ∉ cluster.failing)
    (same : (convergeDeployment deployment
      (desiredDeployment .recommender owner config)).changed = false) :
    cluster.checked config = .ok true ↔ deployment.Reached := by
  have instanceRead := (get_eq_ok_iff owner).mpr ⟨controllers, stored⟩
  have deploymentRead := (get_eq_ok_iff deployment).mpr ⟨deployments, found⟩
  obtain ⟨single, release⟩ := recommender_of_unchanged same
  unfold Config.recommenderKey at deploymentRead
  simp only [Cluster.checked, instanceRead, deploymentRead, release, Bool.true_and]
  rw [← Deployment.isRolledOut_iff_reached single]
  exact ⟨Except.ok.inj, congrArg Except.ok⟩

/-- Whether the status of a deployment, if there is one, is older than a generation that the
    deployment has come to. -/
def Cluster.Lags (cluster : Cluster) (key : ObjectKey) (generation : Int64) : Prop :=
  ∀ deployment : Deployment, cluster.find? .deployment key = some deployment →
    deployment.observed < generation ∧ generation ≤ deployment.generation

theorem checkRecommender_of_lags {checked : Except Error Bool} {generation : Int64}
    (honest : circumstances.Honest)
    (stored : start.find? .controller ⟨some config.watchNamespace, config.name⟩ = some owner)
    (lags : start.Lags config.recommenderKey generation)
    (run : (checkRecommender config).Runs (closedWorld circumstances) start trace checked final) :
    checked ≠ .ok true := by
  obtain ⟨answer, _, rest, read, upon, rfl⟩ := closed_ask_iff.mp run
  obtain rfl := answers_get_same read
  cases answer with
  | error e =>
    change Runs _ (if e.isNotFound then _ else _) _ _ _ _ at upon
    rw [if_neg (answers_get_of_stored honest stored read)] at upon
    obtain ⟨-, rfl, -⟩ := closed_done_iff.mp upon
    nofun
  | ok current =>
    obtain ⟨answer, _, rest, looked, last, rfl⟩ := closed_ask_iff.mp upon
    cases answer with
    | error e =>
      change Runs _ (if e.isNotFound then _ else _) _ _ _ _ at last
      split at last <;>
      · obtain ⟨-, rfl, -⟩ := closed_done_iff.mp last
        nofun
    | ok deployment =>
      obtain ⟨found, rfl⟩ := answers_get_ok looked
      obtain ⟨early, late⟩ := lags deployment found
      have unfinished : deployment.isRolledOut = false :=
        Deployment.not_isRolledOut_of_lag (Int64.lt_of_lt_of_le early late)
      obtain ⟨-, rfl, -⟩ := closed_done_iff.mp last
      simp [unfinished]

end

/-- What may happen to a cluster before the status of a deployment comes to a generation:
    deployments are replaced, their status is written, and everything else may happen. -/
inductive Cluster.Awaits (key : ObjectKey) (generation : Int64) (cluster : Cluster) : Cluster → Prop
  | elsewhere {after : Cluster}
    (kept : ∀ deployment, after.find? .deployment key = some deployment →
      cluster.find? .deployment key = some deployment) : Awaits key generation cluster after
  | replace {object stored : Deployment} {after : Cluster}
    (room : ∀ deployment : Deployment, cluster.find? .deployment key = some deployment →
      deployment.metadata.generation.getD 1 < Int64.maxValue)
    (written : cluster.replace .deployment object = .ok (stored, after)) :
    Awaits key generation cluster after
  | replaceStatus {object stored : Deployment} {after : Cluster}
    (written : cluster.replaceStatus .deployment object = .ok (stored, after))
    (early : stored.observed < generation) : Awaits key generation cluster after

theorem generation_replaced (cluster : Cluster) {stored : Deployment} (object : Deployment)
    (room : stored.metadata.generation.getD 1 < Int64.maxValue) :
    stored.generation ≤ (cluster.replaced .deployment stored object).generation ∧
      (stored.spec ≠ object.spec → stored.metadata.generation.getD 1 <
        (cluster.replaced .deployment stored object).generation) := by
  have counted : (cluster.replaced .deployment stored object).generation =
      if stored.spec == object.spec then stored.metadata.generation.getD 1
      else stored.metadata.generation.getD 1 + 1 := rfl
  have least : stored.generation ≤ stored.metadata.generation.getD 1 := by
    unfold Deployment.generation
    cases stored.metadata.generation with
    | none => decide
    | some generation => exact Int64.le_refl generation
  have more : stored.metadata.generation.getD 1 < stored.metadata.generation.getD 1 + 1 := by grind
  rw [counted]
  by_cases same : stored.spec = object.spec
  · rw [if_pos (beq_iff_eq.mpr same)]
    exact ⟨least, fun different => absurd same different⟩
  · rw [if_neg fun equal => same (beq_iff_eq.mp equal)]
    exact ⟨Int64.le_trans least (Int64.le_of_lt more), fun _ => more⟩

theorem Cluster.Lags.awaits {cluster after : Cluster} {key : ObjectKey} {generation : Int64}
    (lags : cluster.Lags key generation) (step : cluster.Awaits key generation after) :
    after.Lags key generation := by
  intro deployment found
  cases step with
  | elsewhere kept => exact lags deployment (kept deployment found)
  | @replace object stored _ room written =>
    obtain ⟨place, existing, -, stands, -, -, rfl⟩ := update_eq_ok written
    by_cases here : place = key
    · subst here
      obtain ⟨early, late⟩ := lags existing stands
      rw [find?_replaced object stands] at found
      obtain rfl := Option.some.inj found
      exact ⟨early, Int64.le_trans late (generation_replaced cluster object (room _ stands)).1⟩
    · rw [find?_write_of_key_ne cluster _ here] at found
      exact lags deployment found
  | @replaceStatus object stored _ written early =>
    obtain ⟨place, existing, -, stands, -, rfl, rfl⟩ := update_eq_ok written
    by_cases here : place = key
    · subst here
      rw [find?_restated] at found
      obtain rfl := Option.some.inj found
      exact ⟨early, (lags existing stands).2⟩
    · rw [find?_write_of_key_ne cluster _ here] at found
      exact lags deployment found

theorem Cluster.Lags.awaited {start final : Cluster} {key : ObjectKey} {generation : Int64}
    (lags : start.Lags key generation)
    (steps : ReflTransGen (Cluster.Awaits key generation) start final) :
    final.Lags key generation := by
  induction steps with
  | refl => exact lags
  | tail _ step ih => exact ih.awaits step

theorem recommender_passed {owner : AutoscalerController} {config : Config} (cluster : Cluster)
    (named : owner.metadata.name = some config.name) :
    ∃ deployment : Deployment,
      (cluster.passed owner (desiredObjects owner config)).find? .deployment
        config.recommenderKey = some deployment ∧
      (convergeDeployment deployment (desiredDeployment .recommender owner config)).changed =
        false ∧
      ∀ old : Deployment, cluster.find? .deployment config.recommenderKey = some old →
        old.spec ≠ deployment.spec → ∃ between object,
          deployment = Cluster.replaced between .deployment old object := by
  let desired : ManagedObject := ⟨.deployment, desiredDeployment .recommender owner config⟩
  have place : desired.key = config.recommenderKey := by
    have displayed : owner.displayName = config.name := by
      unfold AutoscalerController.displayName ObjectMeta.nameOrGenerated
      rw [named]
      rfl
    unfold Config.recommenderKey
    rw [← displayed]
    rfl
  have member : desired ∈ desiredObjects owner config := by
    simp [desiredObjects, Operand.all, desired]
  have apart := apart_desiredObjects owner config
  obtain ⟨deployment, found, same⟩ :=
    settled_passed cluster owner (complete_desiredObjects owner config) apart desired member
  obtain ⟨between, untouched, brought⟩ := find?_passed cluster owner apart member
  rw [← place]
  refine ⟨deployment, found, same, ?_⟩
  intro old stood different
  have still : between.find? desired.managed.kind desired.key = some old := untouched.trans stood
  cases drifted : (desired.managed.converge old desired.object).changed with
  | false =>
    have settled : between.Settled desired := ⟨old, still, drifted⟩
    rw [settled.brought_eq, still, found] at brought
    exact absurd (congrArg Deployment.spec (Option.some.inj brought)).symm different
  | true =>
    rw [brought_of_drifted owner still drifted, find?_replaced _ still, found] at brought
    exact ⟨between, _, Option.some.inj brought⟩

/-- After a pass that succeeded for an instance, the recommender counts as being at the release
    exactly if its status says that it has rolled out. A status from before the pass does not say so
    if the pass asks for something else, and none does until one is written for what the pass asks. -/
theorem checkRecommender_after_pass {config : Config} {s : Simulation}
    {owner : AutoscalerController} (keyed : s.cluster.Keyed) (honest : s.circumstances.Honest)
    (stored : s.cluster.find? .controller ⟨some config.watchNamespace, config.name⟩ = some owner)
    (named : owner.metadata.name = some config.name) :
    let pass := (reconcile config config.watchNamespace config.name).run Simulation.handle s
    pass.1 = .ok () →
    ∃ deployment : Deployment,
      pass.2.cluster.find? .deployment config.recommenderKey = some deployment ∧
      (∀ t : Simulation, t.cluster = pass.2.cluster → (∀ e, ¬t.circumstances.failures e) →
        (((checkRecommender config).run Simulation.handle t).1 = .ok true ↔ deployment.Reached)) ∧
      ∀ old : Deployment, s.cluster.find? .deployment config.recommenderKey = some old →
        old.spec ≠ deployment.spec → old.observed ≤ old.metadata.generation.getD 1 →
        -- The count of generations does not run over.
        old.metadata.generation.getD 1 < Int64.maxValue →
        ∀ t : Simulation,
          ReflTransGen (Awaits config.recommenderKey deployment.generation) pass.2.cluster
            t.cluster →
          (t.cluster.find? .controller ⟨some config.watchNamespace, config.name⟩).isSome = true →
          t.circumstances.Honest →
          ((checkRecommender config).run Simulation.handle t).1 ≠ .ok true := by
  intro pass succeeded
  have run := s.runs (reconcile config config.watchNamespace config.name)
  rw [show (Program.run _ _ _).1 = _ from succeeded] at run
  obtain ⟨effect, controllers, managed⟩ := reconcile_succeeded keyed honest stored run
  obtain ⟨deployment, found, same, replaced⟩ := recommender_passed s.cluster named
  change pass.2.cluster = _ at effect
  have deployments : (.get, .deployment) ∉ s.cluster.failing :=
    managed ⟨.deployment, desiredDeployment .recommender owner config⟩
      (by simp [desiredObjects, Operand.all])
  refine ⟨deployment, effect ▸ found, ?_, ?_⟩
  · intro t here calm
    rw [(checkRecommender_checked calm (t.runs (checkRecommender config))).1, here, effect]
    have stands : (s.cluster.passed owner (desiredObjects owner config)).find? .controller
        ⟨some config.watchNamespace, config.name⟩ = some owner := by
      rw [find?_passed_controller, stored]
    rw [← failing_passed s.cluster owner (desiredObjects owner config)] at controllers deployments
    exact checked_iff_reached stands found controllers deployments same
  · intro old stood different early room t steps there honest
    obtain ⟨current, kept⟩ := Option.isSome_iff_exists.mp there
    -- The pass counts a generation that the old status cannot have seen.
    have lags : pass.2.cluster.Lags config.recommenderKey deployment.generation := by
      obtain ⟨between, object, rfl⟩ := replaced old stood different
      have raised := (generation_replaced between object room).2 different
      rw [effect]
      intro other again
      cases found.symm.trans again
      exact ⟨Int64.lt_of_le_of_lt early raised, Int64.le_refl _⟩
    exact checkRecommender_of_lags honest kept (lags.awaited steps)
      (t.runs (checkRecommender config))

def Kubernetes.Deployment.earlier : Deployment where
  metadata := {
    name := "vpa-recommender-default"
    namespaceName := some "openshift-vertical-pod-autoscaler"
    resourceVersion := "7"
    generation := some 1 }
  status := some {
    replicas := some 1
    updatedReplicas := some 1
    availableReplicas := some 1
    observedGeneration := some 1 }

def Simulation.behind : Simulation where
  cluster :=
    (({} : Cluster).insert .controller
      (.defaultInstance "default" "openshift-vertical-pod-autoscaler")).insert .deployment .earlier
  clock := default

theorem earlier_rollout_not_released :
    let config : Config := { releaseVersion := "2" }
    let pass := (reconcile config config.watchNamespace config.name).run Simulation.handle .behind
    pass.1 = .ok () ∧ Deployment.earlier.isRolledOut = true ∧
      ((checkRecommender config).run Simulation.handle pass.2).1 ≠ .ok true := by
  intro config pass
  have keyed : Simulation.behind.cluster.Keyed :=
    (Cluster.keyed_empty.insert .controller _).insert .deployment .earlier
  have untroubled := Simulation.untroubled (s := Simulation.behind) rfl rfl
  obtain ⟨succeeded, -⟩ := reconcile_untroubled keyed untroubled
    (Simulation.behind.runs (reconcile config config.watchNamespace config.name))
  have honest : Simulation.behind.circumstances.Honest := fun e failed =>
    absurd failed (untroubled.calm e)
  obtain ⟨deployment, found, -, lagging⟩ :=
    checkRecommender_after_pass keyed honest rfl rfl succeeded
  have different : Deployment.earlier.spec ≠ deployment.spec := by
    cases found
    nofun
  exact ⟨succeeded, rfl, lagging .earlier rfl different (by decide) (by decide) pass.2 .refl rfl
    fun e failed => absurd failed (Simulation.calm_of_free rfl e)⟩

end AutoscalerOperator
