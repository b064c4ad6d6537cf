import AutoscalerOperator.Proofs.Managed.Parts
import AutoscalerOperator.Proofs.Reconcile.Fixpoint

namespace AutoscalerOperator

open Kubernetes Cluster

section

variable {managed : ManagedKind}

theorem unversioned_converge (current desired : managed.Object) :
    managed.kind.unversioned (managed.converge current desired).value =
      (managed.converge (managed.kind.unversioned current) desired).value := by
  cases managed <;> rfl

theorem unversioned_replaced (cluster : Cluster) (current desired : managed.Object) :
    managed.kind.unversioned (cluster.replaced managed.kind current
        (managed.converge current desired).value) =
      (managed.converge (managed.kind.unversioned current) desired).value := by
  cases managed <;> rfl

end

namespace Part

variable {owner : AutoscalerController} {config : Config}

theorem unversioned_created (part : Part) (cluster : Cluster) (owner : AutoscalerController)
    (config : Config) :
    part.managed.kind.unversioned (cluster.created part.managed.kind (part.fresh owner config)) =
      part.fresh owner config := by
  unfold fresh ownedBy
  cases part <;> cases owner.ownerReference? <;> rfl

theorem converge_unchanged {part : Part} {current : part.managed.Object}
    (unchanged : (part.managed.converge current (part.desired owner config)).changed = false) :
    (part.managed.converge current (part.desired owner config)).value = current := by
  cases part with
  | deployment operand => exact convergeDeployment_unchanged unchanged
  | service => exact convergeService_unchanged (by rfl) unchanged
  | configMap => exact convergeConfigMap_unchanged unchanged

theorem converge_fresh (part : Part) (owner : AutoscalerController) (config : Config) :
    (part.managed.converge (part.fresh owner config) (part.desired owner config)).value =
      part.fresh owner config := by
  apply converge_unchanged
  obtain ⟨plain, release, stamped⟩ := (part.complete owner config).stamped
  have unowned : (part.managed.converge (part.fresh owner config)
      (part.desired owner config)).changed = (part.managed.converge (part.desired owner config)
        (part.desired owner config)).changed := converge_changed_ownedBy ..
  change part.desired owner config = _ at stamped
  rw [unowned, stamped]
  exact ManagedKind.converge_stamped plain release

/-- What a pass finds in the place of an object, or else creates there. -/
def base (part : Part) (owner : AutoscalerController) (config : Config)
    (stored? : Option part.managed.Object) : part.managed.Object :=
  (stored?.map part.managed.kind.unversioned).getD (part.fresh owner config)

theorem bare_base {other : AutoscalerController} {config' : Config} (part : Part)
    (same : owner.SameOwner other) (space : config.operandNamespace = config'.operandNamespace)
    (stored? : Option part.managed.Object) :
    part.managed.bare (part.base owner config stored?) =
      part.managed.bare (part.base other config' stored?) := by
  cases stored? with
  | none => exact part.bare_fresh same space
  | some current => rfl

theorem find?_brought (part : Part) (cluster : Cluster) (owner : AutoscalerController)
    (config : Config) :
    let key := (part.object owner config).key
    ((cluster.brought owner (part.object owner config)).find? part.managed.kind key).map
        part.managed.kind.unversioned =
      some (part.managed.converge
        (part.base owner config (cluster.find? part.managed.kind key))
        (part.desired owner config)).value := by
  intro key
  cases found : cluster.find? part.managed.kind key with
  | none =>
    have brought : cluster.brought owner (part.object owner config) =
        cluster.write part.managed.kind key
          (cluster.created part.managed.kind (part.fresh owner config)) :=
      brought_of_missing owner found
    rw [brought, find?_created, Option.map_some, unversioned_created]
    exact congrArg some (part.converge_fresh owner config).symm
  | some current =>
    change _ = some (part.managed.converge (part.managed.kind.unversioned current) _).value
    cases drifted : (part.managed.converge current (part.desired owner config)).changed with
    | true =>
      have brought : cluster.brought owner (part.object owner config) =
          cluster.write part.managed.kind key (cluster.replaced part.managed.kind current
            (part.managed.converge current (part.desired owner config)).value) :=
        brought_of_drifted owner found drifted
      rw [brought, find?_replaced _ found, Option.map_some, unversioned_replaced]
    | false =>
      have settled : cluster.Settled (part.object owner config) := ⟨current, found, drifted⟩
      rw [settled.brought_eq, found, Option.map_some, ← unversioned_converge,
        converge_unchanged drifted]

end Part

structure Round where
  config : Config
  namespaceName : String
  owner : AutoscalerController

/-- How a pass in which nothing fails leads from one cluster to another. Before it the instance may
    have been changed, and whatever else the operator does not own. -/
def Round.Passes (round : Round) (before after : Cluster) : Prop :=
  ∃ circumstances opened trace result,
    (∀ managed : ManagedKind, opened.objects managed.kind = before.objects managed.kind) ∧
      opened.Keyed ∧ opened.Untroubled circumstances ∧
      opened.find? .controller ⟨some round.namespaceName, round.config.name⟩ = some round.owner ∧
      (reconcile round.config round.namespaceName round.config.name).Runs
        (closedWorld circumstances) opened trace result after

/-- Passes for one instance with their objects in one namespace. -/
structure Round.Kin (round other : Round) : Prop where
  owner : round.owner.SameOwner other.owner
  space : round.config.operandNamespace = other.config.operandNamespace

inductive Rounds : List Round → Cluster → Cluster → Prop
  | nil {cluster : Cluster} : Rounds [] cluster cluster
  | cons {round : Round} {rounds : List Round} {start middle final : Cluster}
    (first : round.Passes start middle) (rest : Rounds rounds middle final) :
    Rounds (round :: rounds) start final

theorem Round.Passes.find? {round : Round} {before after : Cluster}
    (passes : round.Passes before after) (part : Part) :
    let key := (part.object round.owner round.config).key
    (after.find? part.managed.kind key).map part.managed.kind.unversioned =
      some (part.managed.converge
        (part.base round.owner round.config (before.find? part.managed.kind key))
        (part.desired round.owner round.config)).value := by
  intro key
  obtain ⟨circumstances, opened, trace, result, same, keyed, untroubled, stored, run⟩ := passes
  obtain ⟨-, passed⟩ := reconcile_untroubled keyed untroubled run
  simp only [Cluster.reconciled, if_true, stored] at passed
  obtain ⟨between, kept, found⟩ := find?_passed opened round.owner
    (apart_desiredObjects round.owner round.config)
    (part.mem_desiredObjects round.owner round.config)
  have start : between.find? part.managed.kind key = before.find? part.managed.kind key :=
    kept.trans (find?_congr (same part.managed) key)
  rw [passed, ← start]
  exact (congrArg _ found).trans (part.find?_brought between round.owner round.config)

theorem Rounds.find? {rounds : List Round} {last : Round} {start final : Cluster}
    (kin : ∀ round ∈ rounds, round.Kin last) (history : Rounds (rounds ++ [last]) start final)
    (part : Part) :
    let key := (part.object last.owner last.config).key
    ∃ base, part.managed.bare base =
        part.managed.bare (part.base last.owner last.config (start.find? part.managed.kind key)) ∧
      (final.find? part.managed.kind key).map part.managed.kind.unversioned =
        some (part.managed.converge base (part.desired last.owner last.config)).value := by
  intro key
  induction rounds generalizing start with
  | nil =>
    cases history with
    | cons passes rest =>
      cases rest
      exact ⟨_, rfl, passes.find? part⟩
  | cons round rounds ih =>
    cases history with
    | @cons _ _ _ middle _ passes rest =>
      obtain ⟨ground, same, found⟩ := ih
        (fun other member => kin other (List.mem_cons_of_mem _ member)) rest
      obtain ⟨owner, space⟩ := kin round List.mem_cons_self
      have place : (part.object round.owner round.config).key = key := part.key_eq owner space
      have left := passes.find? part
      rw [place] at left
      refine ⟨ground, same.trans ?_, found⟩
      -- The next pass finds what this one has left, which differs from what it would have found
      -- before only in what is owned.
      have next : part.base last.owner last.config (middle.find? part.managed.kind key) =
          (part.managed.converge
            (part.base round.owner round.config (start.find? part.managed.kind key))
            (part.desired round.owner round.config)).value := by
        rw [Part.base, left]
        rfl
      rw [next, ManagedKind.bare_converge]
      exact part.bare_base owner space _

/-- Whatever passes came before the last one, the objects that the instance owns say what they would
    say after the last one alone. In particular, of two desired objects that one is brought in line
    with the later counts, and so it does if the object was created as the earlier. -/
theorem history_independent {rounds : List Round} {last : Round} {start final alone : Cluster}
    (kin : ∀ round ∈ rounds, round.Kin last) (history : Rounds (rounds ++ [last]) start final)
    (direct : last.Passes start alone) :
    (∀ desired ∈ desiredObjects last.owner last.config, ∃ left right,
      final.find? desired.managed.kind desired.key = some left ∧
        alone.find? desired.managed.kind desired.key = some right ∧
        semanticEq (desired.managed.kind.unversioned left)
          (desired.managed.kind.unversioned right) = true) ∧
    (∀ (managed : ManagedKind) (current early late : managed.Object),
      semanticEq (managed.converge (managed.converge current early).value late).value
        (managed.converge current late).value = true) ∧
    ∀ round ∈ rounds, ∀ part : Part,
      semanticEq (part.managed.converge (part.fresh round.owner round.config)
          (part.desired last.owner last.config)).value
        (part.fresh last.owner last.config) = true := by
  refine ⟨?_, fun managed => ManagedKind.semanticEq_converge_converge, ?_⟩
  · intro desired member
    rw [Part.desiredObjects_eq] at member
    obtain ⟨part, -, rfl⟩ := List.mem_map.mp member
    obtain ⟨ground, same, found⟩ := history.find? kin part
    obtain ⟨left, ends, shown⟩ := Option.map_eq_some_iff.mp found
    obtain ⟨right, stands, seen⟩ := Option.map_eq_some_iff.mp (direct.find? part)
    refine ⟨left, right, ends, stands, ?_⟩
    have equal := ManagedKind.semanticEq_converge same (part.desired last.owner last.config)
    rw [← shown, ← seen] at equal
    exact equal
  · intro round member part
    obtain ⟨owner, space⟩ := kin round member
    have equal := ManagedKind.semanticEq_converge (part.bare_fresh owner space)
      (part.desired last.owner last.config)
    rwa [part.converge_fresh] at equal

theorem Simulation.passes (s : Simulation) {round : Round} {before : Cluster}
    (same : ∀ managed : ManagedKind, s.cluster.objects managed.kind = before.objects managed.kind)
    (keyed : s.cluster.Keyed) (untroubled : s.cluster.Untroubled s.circumstances)
    (stored : s.cluster.find? .controller ⟨some round.namespaceName, round.config.name⟩ =
      some round.owner) :
    round.Passes before ((reconcile round.config round.namespaceName round.config.name).run
      Simulation.handle s).2.cluster :=
  ⟨_, _, _, _, same, keyed, untroubled, stored, s.runs _⟩

def AutoscalerController.recommending : AutoscalerController :=
  let plain := AutoscalerController.defaultInstance "default" "here"
  { plain with
    metadata := { plain.metadata with resourceVersion := some "9" }
    spec := { plain.spec with recommendationOnly := some true } }

def Simulation.instructed (s : Simulation) : Simulation :=
  { s with cluster := s.cluster.insert .controller .recommending }

theorem Simulation.objects_instructed (s : Simulation) (managed : ManagedKind) :
    s.instructed.cluster.objects managed.kind = s.cluster.objects managed.kind := by
  cases managed <;> rfl

theorem upgraded_history_independent :
    let late : Round := ⟨{ releaseVersion := "2", verbosity := 4 }, "here", .recommending⟩
    let first := ((reconcile { releaseVersion := "1" } "here" "default").run Simulation.handle
      .neglected).2
    let final := ((reconcile late.config "here" "default").run Simulation.handle first.instructed).2
    let alone := ((reconcile late.config "here" "default").run Simulation.handle
      Simulation.neglected.instructed).2
    ∀ desired ∈ desiredObjects late.owner late.config, ∃ left right,
      final.cluster.find? desired.managed.kind desired.key = some left ∧
        alone.cluster.find? desired.managed.kind desired.key = some right ∧
        semanticEq (desired.managed.kind.unversioned left)
          (desired.managed.kind.unversioned right) = true := by
  intro late first final alone
  let early : Round := ⟨{ releaseVersion := "1" }, "here",
    { AutoscalerController.defaultInstance "default" "here" with
      metadata := {
        name := some "default", namespaceName := some "here", resourceVersion := some "1" } }⟩
  have keyed : first.cluster.Keyed := Simulation.keyed_neglected.run
    (Simulation.neglected.runs (reconcile { releaseVersion := "1" } "here" "default"))
  have started : early.Passes Simulation.neglected.cluster first.cluster :=
    Simulation.neglected.passes (fun _ => rfl) Simulation.keyed_neglected
      (Simulation.untroubled rfl rfl) rfl
  have working : first.cluster.failing = [] ∧ first.traps = [] := ⟨rfl, rfl⟩
  have upgraded : late.Passes first.cluster final.cluster := by
    clear_value first
    exact first.instructed.passes first.objects_instructed (keyed.insert .controller .recommending)
      (Simulation.untroubled working.2 working.1) rfl
  have direct : late.Passes Simulation.neglected.cluster alone.cluster :=
    Simulation.neglected.instructed.passes Simulation.neglected.objects_instructed
      (Simulation.keyed_neglected.insert .controller .recommending)
      (Simulation.untroubled rfl rfl) rfl
  have history : Rounds ([early] ++ [late]) Simulation.neglected.cluster final.cluster :=
    .cons started (.cons upgraded .nil)
  have kin : ∀ round ∈ [early], round.Kin late := by
    intro round member
    rw [List.mem_singleton.mp member]
    exact ⟨⟨rfl, rfl, fun _ => rfl⟩, rfl⟩
  exact (history_independent kin history direct).1

end AutoscalerOperator
