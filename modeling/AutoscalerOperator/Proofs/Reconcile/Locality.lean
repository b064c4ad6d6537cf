import AutoscalerOperator.Proofs.Managed.Edits
import AutoscalerOperator.Proofs.Reconcile.History

namespace AutoscalerOperator

open Kubernetes Program Cluster

/-- A call that replaces what is stored of an owned object, because it is out of line. -/
def Cluster.Repairs (cluster : Cluster) (desired : ManagedObject) (c : Call) : Prop :=
  ∃ current, cluster.find? desired.managed.kind desired.key = some current ∧
    (desired.managed.converge current desired.object).changed = true ∧
      c = .replace desired.managed.kind (desired.managed.converge current desired.object).value

section

variable {circumstances : Circumstances} {cluster final : Cluster} {owner : AutoscalerController}
  {config : Config} {desired : ManagedObject} {objects : List ManagedObject}
  {trace : List (Exchange Cluster)}

theorem ObjectRun.writes {result : Except Failure Outcome}
    (there : cluster.find? desired.managed.kind desired.key ≠ none)
    (untroubled : cluster.Untroubled circumstances)
    (run : ObjectRun (closedWorld circumstances) owner desired cluster trace result final) :
    ∀ exchange ∈ trace, exchange.call.writes? = none ∨ cluster.Repairs desired exchange.call := by
  cases run with
  | kept moved read same left => simp [Call.writes?]
  | updated moved read drifted further answered left =>
    obtain rfl := closedWorld_moves moved
    obtain ⟨found, -⟩ := answers_get_ok read
    intro exchange member
    simp only [List.mem_cons, List.not_mem_nil, or_false] at member
    rcases member with rfl | rfl
    · exact .inl rfl
    · exact .inr ⟨_, found, drifted, rfl⟩
  | created moved read absent further answered left =>
    obtain rfl := closedWorld_moves moved
    obtain ⟨-, missing, -⟩ := untroubled.answers_get_error read
    exact absurd missing there
  | unread moved read unclear left => simp [Call.writes?]

theorem Cluster.Repairs.of_brought {other : ManagedObject} {c : Call} (apart : desired.Apart other)
    (repairs : (cluster.brought owner desired).Repairs other c) : cluster.Repairs other c := by
  obtain ⟨current, found, drifted, same⟩ := repairs
  rw [find?_brought_of_ne apart] at found
  exact ⟨current, found, drifted, same⟩

theorem reconcileAll_writes {result : Except Error Unit}
    (complete : ∀ desired ∈ objects, desired.Complete)
    (apart : objects.Pairwise ManagedObject.Apart)
    (there : ∀ desired ∈ objects, cluster.find? desired.managed.kind desired.key ≠ none)
    (keyed : cluster.Keyed) (untroubled : cluster.Untroubled circumstances)
    (run : (reconcileAll owner config objects).Runs (closedWorld circumstances) cluster trace result
      final) :
    ∀ exchange ∈ trace, exchange.call.writes? = none ∨
      ∃ desired ∈ objects, cluster.Repairs desired exchange.call := by
  -- What comes later is found as it was, since the places are apart.
  induction objects generalizing cluster trace with
  | nil =>
    obtain ⟨rfl, -, -⟩ := closed_done_iff.mp run
    exact fun _ => nofun
  | cons first rest ih =>
    obtain ⟨others, apart⟩ := List.pairwise_cons.mp apart
    obtain ⟨whole, complete⟩ := List.forall_mem_cons.mp complete
    obtain ⟨here, there⟩ := List.forall_mem_cons.mp there
    obtain ⟨_, told, middle, last, head, tail, rfl⟩ := runs_bind_iff.mp run
    obtain ⟨calls, outcome, _, events, object, moved, rfl, rfl, published, -⟩ :=
      runs_reconcileAndTell head
    obtain rfl := closedWorld_moves moved
    have written := object.writes here untroubled
    obtain ⟨_, rfl⟩ := object.succeeds whole keyed untroubled
    obtain ⟨-, rfl⟩ | ⟨⟨_, failed⟩, -⟩ := object.effect whole keyed
    · have still : ∀ desired ∈ rest,
          (cluster.brought owner first).find? desired.managed.kind desired.key ≠ none := by
        intro desired member
        rw [find?_brought_of_ne (others desired member)]
        exact there desired member
      have later := ih complete apart still (keyed.brought owner whole)
        (untroubled.brought owner first) tail
      intro exchange member
      rw [List.mem_append, List.mem_append] at member
      rcases member with (member | member) | member
      · exact (written exchange member).imp_right fun repairs => ⟨first, List.mem_cons_self, repairs⟩
      · obtain ⟨event, same⟩ := published exchange member
        exact .inl (by rw [same]; rfl)
      · refine (later exchange member).imp_right ?_
        rintro ⟨desired, reached, repairs⟩
        exact ⟨desired, List.mem_cons_of_mem _ reached, repairs.of_brought (others desired reached)⟩
    · cases failed

theorem reconcile_writes {namespaceName : String} {result : Except Error Unit}
    (there : ∀ desired ∈ desiredObjects owner config,
      cluster.find? desired.managed.kind desired.key ≠ none)
    (keyed : cluster.Keyed) (untroubled : cluster.Untroubled circumstances)
    (stored : cluster.find? .controller ⟨some namespaceName, config.name⟩ = some owner)
    (run : (reconcile config namespaceName config.name).Runs (closedWorld circumstances) cluster
      trace result final) :
    ∀ exchange ∈ trace, exchange.call.writes? = none ∨
      ∃ desired ∈ desiredObjects owner config, cluster.Repairs desired exchange.call := by
  unfold reconcile at run
  rw [if_pos rfl] at run
  obtain ⟨answer, after, rest, read, upon, rfl⟩ := closed_ask_iff.mp run
  refine List.forall_mem_cons.mpr ⟨.inl rfl, ?_⟩
  cases answer with
  | ok found =>
    obtain ⟨same, rfl⟩ := answers_get_ok read
    cases stored.symm.trans same
    exact reconcileAll_writes (complete_desiredObjects owner config)
      (apart_desiredObjects owner config) there keyed untroubled upon
  | error e =>
    obtain ⟨-, missing, -⟩ := untroubled.answers_get_error read
    cases stored.symm.trans missing

theorem Cluster.Repairs.logged {exchange : Exchange Cluster} {logged : LoggedCall}
    (complete : desired.Complete) (keyed : cluster.Keyed)
    (repairs : cluster.Repairs desired exchange.call) (entry : exchange.logged? = some logged) :
    logged.verb = .replace ∧ logged.kind = desired.managed.kind ∧
      logged.namespaceName = desired.key.namespaceName ∧ logged.name = some desired.key.name := by
  obtain ⟨c, answer, before, after⟩ := exchange
  obtain ⟨current, found, -, rfl⟩ := repairs
  cases entry
  obtain ⟨space, name⟩ := (keyOf_eq_ok_iff _).mp (keyOf_converge complete keyed found)
  exact ⟨rfl, rfl, space, name⟩

theorem Cluster.Settled.not_repairs {c : Call} (settled : cluster.Settled desired) :
    ¬cluster.Repairs desired c := by
  rintro ⟨current, found, drifted, -⟩
  obtain ⟨other, stands, same⟩ := settled
  cases found.symm.trans stands
  cases same.symm.trans drifted

theorem Cluster.Settled.of_objects {other : Cluster} (settled : cluster.Settled desired)
    (same : other.objects desired.managed.kind = cluster.objects desired.managed.kind) :
    other.Settled desired := by
  obtain ⟨current, found, unchanged⟩ := settled
  exact ⟨current, (find?_congr same desired.key).trans found, unchanged⟩

end

section

variable {cluster : Cluster} {before after : AutoscalerController} {config : Config}

theorem operand_of_repairs {part : Part} {c : Call}
    (settled : cluster.Settled (part.object before config))
    (named : before.displayName = after.displayName)
    (repairs : cluster.Repairs (part.object after config) c) :
    ∃ operand, part = .deployment operand ∧
      ∀ edit : Edit, after.spec = edit.applied before.spec → operand ∈ edit.operands := by
  cases part with
  | service | configMap => exact absurd repairs settled.not_repairs
  | deployment operand =>
    refine ⟨operand, rfl, fun edit edited => ?_⟩
    by_cases affected : operand ∈ edit.operands
    · exact affected
    · have same : Part.object (.deployment operand) before config =
          Part.object (.deployment operand) after config :=
        congrArg (ManagedObject.mk .deployment)
          (desiredDeployment_of_not_mem named edited affected config)
      rw [same] at settled
      exact absurd repairs settled.not_repairs

/-- Whether a deployment is another one with other replicas, if with others at all. -/
def Kubernetes.Deployment.Scales (new old : Deployment) : Prop :=
  new = { old.scaled new.asked.replicas with
    metadata := { old.metadata with
      resourceVersion := new.metadata.resourceVersion, generation := new.metadata.generation } }

theorem scales_replaced (cluster : Cluster) (old : Deployment) (replicas : Option Int32) :
    Deployment.Scales (cluster.replaced .deployment old (old.scaled replicas)) old := by
  unfold Deployment.Scales
  simp only [Cluster.replaced, Kind.withMetadata, Kind.withStatusOf, Kind.metadata,
    Deployment.scaled, Deployment.asked, Option.getD_some, Option.or_self]

theorem scales_of_scaled_eq {old : Deployment} {replicas : Option Int32}
    (kept : old.scaled replicas = old) : old.Scales old := by
  have same : replicas = old.asked.replicas := congrArg (·.asked.replicas) kept
  unfold Deployment.Scales
  rw [← same, kept]

theorem scales_brought {operand : Operand} {only : Option Bool} {old : Deployment}
    (settled : (convergeDeployment old (desiredDeployment operand before config)).changed = false)
    (edited : after.spec = (Edit.recommendationOnly only).applied before.spec)
    (found : cluster.find? .deployment (Part.object (.deployment operand) after config).key =
      some old) :
    ∃ new : Deployment, (cluster.brought after (Part.object (.deployment operand) after config)).find?
        .deployment (Part.object (.deployment operand) after config).key = some new ∧
      new.Scales old := by
  let object := Part.object (.deployment operand) after config
  let desired := desiredDeployment operand after config
  have scaled : (convergeDeployment old desired).value = old.scaled desired.asked.replicas :=
    convergeDeployment_of_samePods settled rfl
      (podSpec_desiredDeployment_of_recommendationOnly edited operand config)
  cases drifted : (convergeDeployment old desired).changed with
  | true =>
    have brought : cluster.brought after object = cluster.write .deployment object.key
        (cluster.replaced .deployment old (convergeDeployment old desired).value) :=
      brought_of_drifted after found drifted
    rw [brought, find?_replaced _ found, scaled]
    exact ⟨_, rfl, scales_replaced cluster old _⟩
  | false =>
    have quiet : cluster.Settled object := ⟨old, found, drifted⟩
    rw [quiet.brought_eq]
    have kept : old.scaled desired.asked.replicas = old :=
      scaled.symm.trans (convergeDeployment_unchanged drifted)
    exact ⟨old, found, scales_of_scaled_eq kept⟩

end

section

variable {circumstances : Circumstances} {cluster final : Cluster} {config : Config}
  {namespaceName : String} {before after : AutoscalerController} {trace : List (Exchange Cluster)}

theorem settled_of_succeeded (keyed : cluster.Keyed) (honest : circumstances.Honest)
    (stored : cluster.find? .controller ⟨some namespaceName, config.name⟩ = some before)
    (run : (reconcile config namespaceName config.name).Runs (closedWorld circumstances) cluster
      trace (.ok ()) final) (part : Part) : final.Settled (part.object before config) := by
  obtain ⟨rfl, -, -⟩ := reconcile_succeeded keyed honest stored run
  exact settled_passed cluster before (complete_desiredObjects before config)
    (apart_desiredObjects before config) _ (part.mem_desiredObjects before config)

/-- A write of the deployment of an operand, one that the edit is about that leads from one instance
    to the other. -/
def LoggedCall.Follows (call : LoggedCall) (config : Config) (before after : AutoscalerController) :
    Prop :=
  call.verb = .replace ∧ call.kind = .deployment ∧
    call.namespaceName = some config.operandNamespace ∧
    ∃ operand : Operand, call.name = some (operand.resourceName before.displayName) ∧
      ∀ edit : Edit, after.spec = edit.applied before.spec → operand ∈ edit.operands

theorem follows_of_logged {result : Except Error Unit}
    (settled : ∀ part : Part, cluster.Settled (part.object before config))
    (owner : before.SameOwner after) (keyed : cluster.Keyed)
    (untroubled : cluster.Untroubled circumstances)
    (edited : cluster.find? .controller ⟨some namespaceName, config.name⟩ = some after)
    (run : (reconcile config namespaceName config.name).Runs (closedWorld circumstances) cluster
      trace result final) {exchange : Exchange Cluster} (member : exchange ∈ trace)
    {call : LoggedCall} (logged : exchange.logged? = some call) (written : call.verb ≠ .get) :
    call.Follows config before after := by
  have there : ∀ desired ∈ desiredObjects after config,
      cluster.find? desired.managed.kind desired.key ≠ none := by
    intro desired asked
    rw [Part.desiredObjects_eq] at asked
    obtain ⟨part, -, rfl⟩ := List.mem_map.mp asked
    obtain ⟨current, stands, -⟩ := settled part
    rw [← part.key_eq owner rfl]
    intro missing
    cases stands.symm.trans missing
  rcases reconcile_writes there keyed untroubled edited run exchange member with
    unwritten | ⟨desired, asked, repairs⟩
  · exact absurd (Exchange.verb_of_unwritten unwritten logged) written
  · rw [Part.desiredObjects_eq] at asked
    obtain ⟨part, -, rfl⟩ := List.mem_map.mp asked
    obtain ⟨operand, rfl, affected⟩ := operand_of_repairs (settled part) owner.displayName repairs
    obtain ⟨verb, kind, space, name⟩ := repairs.logged (Part.complete _ after config) keyed logged
    refine ⟨verb, kind, space, operand, ?_, affected⟩
    rw [owner.displayName]
    exact name

theorem scales_passed {only : Option Bool} {operand : Operand}
    (settled : cluster.Settled (Part.object (.deployment operand) before config))
    (owner : before.SameOwner after)
    (told : after.spec = (Edit.recommendationOnly only).applied before.spec) :
    let key := (Part.deployment operand).place before.displayName config.operandNamespace
    ∃ old new : Deployment, cluster.find? .deployment key = some old ∧
      (cluster.passed after (desiredObjects after config)).find? .deployment key = some new ∧
        new.Scales old := by
  intro key
  let object := Part.object (.deployment operand) after config
  have place : (Part.object (.deployment operand) before config).key = object.key :=
    Part.key_eq _ owner rfl
  obtain ⟨between, kept, brought⟩ := find?_passed cluster after (apart_desiredObjects after config)
    (Part.mem_desiredObjects (.deployment operand) after config)
  obtain ⟨old, stands, inLine⟩ := settled
  rw [place] at stands
  obtain ⟨new, written, scales⟩ := scales_brought inLine told (kept.trans stands)
  have here : key = object.key := by
    rw [← place]
    rfl
  rw [here]
  exact ⟨old, new, stands, brought.trans written, scales⟩

end

/-- An edit of what an instance asks for stays where it belongs: after it a pass writes no more than
    deployments of the operands that the edit is about, never the service or the config map. One that
    only tells whether recommendations are acted on scales deployments and changes nothing else. -/
theorem edits_stay_local (config : Config) (namespaceName : String) {s t : Simulation}
    {before after : AutoscalerController} (keyed : s.cluster.Keyed)
    (honest : s.circumstances.Honest)
    (stored : s.cluster.find? .controller ⟨some namespaceName, config.name⟩ = some before)
    (succeeded :
      ((reconcile config namespaceName config.name).run Simulation.handle s).1 = .ok ())
    (left : ∀ managed : ManagedKind, t.cluster.objects managed.kind =
      ((reconcile config namespaceName config.name).run Simulation.handle s).2.cluster.objects
        managed.kind)
    (still : t.cluster.Keyed) (untroubled : t.cluster.Untroubled t.circumstances)
    (edited : t.cluster.find? .controller ⟨some namespaceName, config.name⟩ = some after)
    (owner : before.SameOwner after) :
    let next := (reconcile config namespaceName config.name).run Simulation.handle t
    next.1 = .ok () ∧
      (∃ calls, next.2.log = t.log ++ calls ∧
        ∀ call ∈ calls, call.verb ≠ .get → call.Follows config before after) ∧
      ∀ only, after.spec = (Edit.recommendationOnly only).applied before.spec →
        ∀ operand : Operand,
          let key := (Part.deployment operand).place before.displayName config.operandNamespace
          ∃ old new : Deployment, t.cluster.find? .deployment key = some old ∧
            next.2.cluster.find? .deployment key = some new ∧ new.Scales old := by
  intro next
  have first := s.runs (reconcile config namespaceName config.name)
  rw [succeeded] at first
  have settled (part : Part) : t.cluster.Settled (part.object before config) :=
    (settled_of_succeeded keyed honest stored first part).of_objects (left part.managed)
  have second := t.runs (reconcile config namespaceName config.name)
  obtain ⟨done, effect⟩ := reconcile_untroubled still untroubled second
  refine ⟨done, ?_, fun only told operand => ?_⟩
  · obtain ⟨log, -⟩ := t.records_run (reconcile config namespaceName config.name)
    refine ⟨_, log, fun call logged written => ?_⟩
    obtain ⟨exchange, member, entry⟩ := List.mem_flatMap.mp logged
    exact follows_of_logged settled owner still untroubled edited second member
      (Option.mem_toList.mp entry) written
  · have passed : next.2.cluster = t.cluster.passed after (desiredObjects after config) := by
      simpa only [Cluster.reconciled, if_true, edited] using effect
    rw [passed]
    exact scales_passed (settled _) owner told

theorem Simulation.untroubled_instructed (s : Simulation) (free : s.traps = [])
    (working : s.cluster.failing = []) :
    s.instructed.cluster.Untroubled s.instructed.circumstances :=
  Simulation.untroubled free working

theorem Simulation.find?_instructed (s : Simulation) :
    s.instructed.cluster.find? .controller ⟨some "here", "default"⟩ = some .recommending :=
  rfl

theorem recommending_only_scales :
    let config : Config := {}
    let first := ((reconcile config "here" config.name).run Simulation.handle .neglected).2
    let next := ((reconcile config "here" config.name).run Simulation.handle first.instructed).2
    ∀ operand : Operand,
      let key := (Part.deployment operand).place "default" config.operandNamespace
      ∃ old new : Deployment, first.instructed.cluster.find? .deployment key = some old ∧
        next.cluster.find? .deployment key = some new ∧ new.Scales old := by
  intro config first next
  let before : AutoscalerController :=
    { AutoscalerController.defaultInstance "default" "here" with
      metadata := {
        name := some "default", namespaceName := some "here", resourceVersion := some "1" } }
  have stored : Simulation.neglected.cluster.find? .controller ⟨some "here", config.name⟩ =
    some before := rfl
  have started := Simulation.neglected.runs (reconcile config "here" config.name)
  have calm : Simulation.neglected.cluster.Untroubled Simulation.neglected.circumstances :=
    Simulation.untroubled rfl rfl
  have succeeded := (reconcile_untroubled Simulation.keyed_neglected calm started).1
  have keyed : first.cluster.Keyed := Simulation.keyed_neglected.run started
  have left : ∀ managed : ManagedKind, first.instructed.cluster.objects managed.kind =
      ((reconcile config "here" config.name).run Simulation.handle .neglected).2.cluster.objects
        managed.kind := first.objects_instructed
  have untroubled := first.untroubled_instructed (Simulation.traps_run rfl _) (failing_run started)
  have edited := first.find?_instructed
  have owner : before.SameOwner .recommending := ⟨rfl, rfl, nofun⟩
  have told : AutoscalerController.recommending.spec =
    (Edit.recommendationOnly (some true)).applied before.spec := rfl
  have stays := edits_stay_local config "here" Simulation.keyed_neglected
    (fun e failed => absurd failed (calm.calm e)) stored succeeded left
    (keyed.insert .controller .recommending) untroubled edited owner
  exact stays.2.2 (some true) told

end AutoscalerOperator
