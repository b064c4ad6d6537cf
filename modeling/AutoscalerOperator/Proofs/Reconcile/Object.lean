import AutoscalerOperator.Proofs.Reconcile.Step

namespace AutoscalerOperator

open Kubernetes Program
open Relation (ReflTransGen)

abbrev ManagedObject.read (desired : ManagedObject) : Call :=
  .get desired.managed.kind desired.key.namespaceName desired.key.name

/-- How a program that brings one object in line runs in a world: by what it reads, and by how the
    call is answered that it makes upon that, if it makes one. -/
inductive ObjectRun (world : World Cluster) (owner : AutoscalerController)
    (desired : ManagedObject) (start : Cluster) :
    List (Exchange Cluster) → Except Failure Outcome → Cluster → Prop
  | kept {before after final : Cluster} {current : desired.managed.Object}
    (moved : ReflTransGen world.moves start before)
    (read : world.answers desired.read before (.ok current) after)
    (same : (desired.managed.converge current desired.object).changed = false)
    (left : ReflTransGen world.moves after final) :
    ObjectRun world owner desired start [⟨desired.read, .ok current, before, after⟩]
      (.ok .unchanged) final
  | updated {before after again written final : Cluster} {current : desired.managed.Object}
    {answer : Except Error desired.managed.Object}
    (moved : ReflTransGen world.moves start before)
    (read : world.answers desired.read before (.ok current) after)
    (drifted : (desired.managed.converge current desired.object).changed = true)
    (further : ReflTransGen world.moves after again)
    (answered : world.answers (.replace desired.managed.kind
      (desired.managed.converge current desired.object).value) again answer written)
    (left : ReflTransGen world.moves written final) :
    ObjectRun world owner desired start
      [⟨desired.read, .ok current, before, after⟩,
        ⟨.replace desired.managed.kind (desired.managed.converge current desired.object).value,
          answer, again, written⟩]
      ((answer.map fun _ => .updated).mapError (⟨.update, ·⟩)) final
  | created {before after again written final : Cluster} {e : Error}
    {answer : Except Error desired.managed.Object}
    (moved : ReflTransGen world.moves start before)
    (read : world.answers desired.read before (.error e) after) (absent : e.isNotFound = true)
    (further : ReflTransGen world.moves after again)
    (answered : world.answers (.create desired.managed.kind
      (ownedBy owner desired.managed.kind desired.object)) again answer written)
    (left : ReflTransGen world.moves written final) :
    ObjectRun world owner desired start
      [⟨desired.read, .error e, before, after⟩,
        ⟨.create desired.managed.kind (ownedBy owner desired.managed.kind desired.object),
          answer, again, written⟩]
      ((answer.map fun _ => .created).mapError (⟨.create, ·⟩)) final
  | unread {before after final : Cluster} {e : Error}
    (moved : ReflTransGen world.moves start before)
    (read : world.answers desired.read before (.error e) after) (unclear : e.isNotFound = false)
    (left : ReflTransGen world.moves after final) :
    ObjectRun world owner desired start [⟨desired.read, .error e, before, after⟩]
      (.error ⟨.get, e⟩) final

theorem objectRun_of_runs {world : World Cluster} {owner : AutoscalerController}
    {desired : ManagedObject} {start final : Cluster} {trace : List (Exchange Cluster)}
    {result : Except Failure Outcome}
    (run : (reconcileObject owner desired.managed desired.object).Runs world start trace result
      final) : ObjectRun world owner desired start trace result final := by
  obtain ⟨before, answer, after, rest, moved, read, upon, rfl⟩ := runs_ask_iff.mp run
  cases answer with
  | ok current =>
    change Runs world (if (desired.managed.converge current desired.object).changed then _ else _)
      _ _ _ _ at upon
    cases drifted : (desired.managed.converge current desired.object).changed with
    | true =>
      rw [if_pos drifted] at upon
      obtain ⟨again, answer, written, rest, further, answered, last, rfl⟩ := runs_ask_iff.mp upon
      cases answer <;>
      · obtain ⟨rfl, rfl, left⟩ := runs_done_iff.mp last
        exact .updated moved read drifted further answered left
    | false =>
      rw [if_neg (by simp [drifted])] at upon
      obtain ⟨rfl, rfl, left⟩ := runs_done_iff.mp upon
      exact .kept moved read drifted left
  | error e =>
    change Runs world (if e.isNotFound then _ else _) _ _ _ _ at upon
    cases absent : e.isNotFound with
    | true =>
      rw [if_pos absent] at upon
      obtain ⟨again, answer, written, rest, further, answered, last, rfl⟩ := runs_ask_iff.mp upon
      cases answer <;>
      · obtain ⟨rfl, rfl, left⟩ := runs_done_iff.mp last
        exact .created moved read absent further answered left
    | false =>
      rw [if_neg (by simp [absent])] at upon
      obtain ⟨rfl, rfl, left⟩ := runs_done_iff.mp upon
      exact .unread moved read absent left

section

variable {circumstances : Circumstances} {moves : Cluster → Cluster → Prop}
  {start final : Cluster} {trace : List (Exchange Cluster)}

theorem runs_publish {event? : Option Event} {value : Unit}
    (run : (publish event?).Runs (Cluster.world circumstances moves) start trace value final) :
    ReflTransGen moves start final ∧ (∀ exchange ∈ trace, ∃ event, exchange.call = .publish event) ∧
      (event? = none → trace = []) := by
  cases event? with
  | none =>
    obtain ⟨rfl, -, moved⟩ := runs_done_iff.mp run
    exact ⟨moved, by simp, fun _ => rfl⟩
  | some event =>
    obtain ⟨before, answer, after, rest, moved, rfl, last, rfl⟩ := runs_ask_iff.mp run
    obtain ⟨rfl, -, left⟩ := runs_done_iff.mp last
    exact ⟨moved.trans left, by simp, nofun⟩

theorem runs_reconcileAndTell {owner : AutoscalerController} {config : Config}
    {desired : ManagedObject} {result : Except Error Unit}
    (run : (reconcileAndTell owner config desired).Runs (Cluster.world circumstances moves) start
      trace result final) :
    ∃ first outcome middle rest,
      ObjectRun (Cluster.world circumstances moves) owner desired start first outcome middle ∧
        ReflTransGen moves middle final ∧
        result = (outcome.map fun _ => ()).mapError (·.error) ∧ trace = first ++ rest ∧
        (∀ exchange ∈ rest, ∃ event, exchange.call = .publish event) ∧
          (outcome = .ok .unchanged → rest = []) := by
  obtain ⟨first, outcome, middle, rest, object, told, rfl⟩ := runs_bind_iff.mp run
  obtain ⟨second, value, between, last, published, done, rfl⟩ := runs_bind_iff.mp told
  obtain ⟨rfl, rfl, left⟩ := runs_done_iff.mp done
  obtain ⟨moved, events, silent⟩ := runs_publish published
  rw [List.append_nil]
  refine ⟨first, outcome, middle, second, objectRun_of_runs object, moved.trans left, rfl, rfl,
    events, ?_⟩
  rintro rfl
  exact silent rfl

end

section

variable {circumstances : Circumstances} {cluster final : Cluster} {owner : AutoscalerController}
  {desired : ManagedObject} {trace : List (Exchange Cluster)}

open Cluster

theorem ObjectRun.effect {result : Except Failure Outcome} (complete : desired.Complete)
    (keyed : cluster.Keyed)
    (run : ObjectRun (closedWorld circumstances) owner desired cluster trace result final) :
    (∃ outcome, result = .ok outcome) ∧ final = cluster.brought owner desired ∨
      (∃ failure, result = .error failure) ∧ final = cluster := by
  cases run with
  | kept moved read same left =>
    obtain rfl := closedWorld_moves moved
    obtain ⟨found, rfl⟩ := answers_get_ok read
    obtain rfl := closedWorld_moves left
    have settled : final.Settled desired := ⟨_, found, same⟩
    exact .inl ⟨⟨_, rfl⟩, settled.brought_eq.symm⟩
  | @updated _ _ _ _ _ _ answer moved read drifted further answered left =>
    obtain rfl := closedWorld_moves moved
    obtain ⟨found, rfl⟩ := answers_get_ok read
    obtain rfl := closedWorld_moves further
    obtain rfl := closedWorld_moves left
    cases answer with
    | ok stored => exact .inl ⟨⟨_, rfl⟩, replace_converged complete keyed found drifted answered⟩
    | error e => exact .inr ⟨⟨_, rfl⟩, answered.1⟩
  | @created _ _ _ _ _ _ answer moved read absent further answered left =>
    obtain rfl := closedWorld_moves moved
    obtain ⟨rfl, -⟩ := answers_get_error read
    obtain rfl := closedWorld_moves further
    obtain rfl := closedWorld_moves left
    cases answer with
    | ok stored => exact .inl ⟨⟨_, rfl⟩, create_ownedBy complete answered⟩
    | error e => exact .inr ⟨⟨_, rfl⟩, answered.1⟩
  | unread moved read unclear left =>
    obtain rfl := closedWorld_moves moved
    obtain ⟨rfl, -⟩ := answers_get_error read
    obtain rfl := closedWorld_moves left
    exact .inr ⟨⟨_, rfl⟩, rfl⟩

theorem ObjectRun.succeeds {result : Except Failure Outcome} (complete : desired.Complete)
    (keyed : cluster.Keyed) (untroubled : cluster.Untroubled circumstances)
    (run : ObjectRun (closedWorld circumstances) owner desired cluster trace result final) :
    ∃ outcome, result = .ok outcome := by
  cases run with
  | kept moved read same left => exact ⟨_, rfl⟩
  | @updated _ _ _ _ _ _ answer moved read drifted further answered left =>
    obtain rfl := closedWorld_moves moved
    obtain ⟨found, rfl⟩ := answers_get_ok read
    obtain rfl := closedWorld_moves further
    cases answer with
    | ok stored => exact ⟨_, rfl⟩
    | error e =>
      obtain ⟨outcome, written⟩ :=
        replace_converged_succeeds complete keyed untroubled.working found
      rcases answered.2 with failed | failed
      · rw [written] at failed
        cases failed
      · exact absurd failed (untroubled.calm e)
  | @created _ _ _ _ _ _ answer moved read absent further answered left =>
    obtain rfl := closedWorld_moves moved
    obtain ⟨rfl, missing, -⟩ := untroubled.answers_get_error read
    obtain rfl := closedWorld_moves further
    cases answer with
    | ok stored => exact ⟨_, rfl⟩
    | error e =>
      obtain ⟨outcome, made⟩ := create_ownedBy_succeeds owner complete untroubled.working missing
      rcases answered.2 with failed | failed
      · rw [made] at failed
        cases failed
      · exact absurd failed (untroubled.calm e)
  | unread moved read unclear left =>
    obtain rfl := closedWorld_moves moved
    obtain ⟨-, -, rfl⟩ := untroubled.answers_get_error read
    cases unclear

theorem ObjectRun.readable {outcome : Outcome} (honest : circumstances.Honest)
    (run : ObjectRun (closedWorld circumstances) owner desired cluster trace (.ok outcome) final) :
    (.get, desired.managed.kind) ∉ cluster.failing := by
  generalize succeeded : Except.ok outcome = result at run
  cases run with
  | kept moved read same left =>
    obtain rfl := closedWorld_moves moved
    exact readable_of_answers honest read nofun
  | updated moved read drifted further answered left =>
    obtain rfl := closedWorld_moves moved
    exact readable_of_answers honest read nofun
  | created moved read absent further answered left =>
    obtain rfl := closedWorld_moves moved
    refine readable_of_answers honest read ?_
    rintro e ⟨⟩
    exact absent
  | unread moved read unclear left => cases succeeded

theorem ObjectRun.quiet {result : Except Failure Outcome} (settled : cluster.Settled desired)
    (untroubled : cluster.Untroubled circumstances)
    (run : ObjectRun (closedWorld circumstances) owner desired cluster trace result final) :
    result = .ok .unchanged ∧ final = cluster ∧ ∀ exchange ∈ trace, exchange.call.Reads := by
  obtain ⟨current, found, same⟩ := settled
  cases run with
  | kept moved read same left =>
    obtain rfl := closedWorld_moves moved
    obtain ⟨-, rfl⟩ := answers_get_ok read
    obtain rfl := closedWorld_moves left
    exact ⟨rfl, rfl, by simp [Call.Reads]⟩
  | updated moved read drifted further answered left =>
    obtain rfl := closedWorld_moves moved
    obtain ⟨again, -⟩ := answers_get_ok read
    rw [found] at again
    cases again
    rw [same] at drifted
    cases drifted
  | created moved read absent further answered left | unread moved read unclear left =>
    obtain rfl := closedWorld_moves moved
    obtain ⟨-, missing, -⟩ := untroubled.answers_get_error read
    rw [found] at missing
    cases missing

end

end AutoscalerOperator
