import AutoscalerOperator.Proofs.Execution.Sink
import AutoscalerOperator.Proofs.Reconcile.Fixpoint

namespace AutoscalerOperator

open Kubernetes Program Cluster

section

variable (owner : AutoscalerController) (config : Config)

/-- That one event about an instance is published, whatever the sink makes of it. -/
def Publishes (isWarning : Bool) (reason : String) (cluster : Cluster)
    (trace : List (Exchange Cluster)) : Prop :=
  ∃ event answer, event.regarding = eventReference owner config ∧ event.isWarning = isWarning ∧
    event.reason = reason ∧ trace = [⟨.publish event, answer, cluster, cluster⟩]

/-- How an object is brought in line, and told so: with an event if it was written, else
    without one. -/
inductive Brings (desired : ManagedObject) (start : Cluster) :
    List (Exchange Cluster) → Cluster → Prop
  | kept {current : desired.managed.Object}
    (found : start.find? desired.managed.kind desired.key = some current)
    (same : (desired.managed.converge current desired.object).changed = false) :
    Brings desired start [⟨desired.read, .ok current, start, start⟩] start
  | created {e : Error} {stored : desired.managed.Object} {final : Cluster}
    {told : List (Exchange Cluster)} (absent : e.isNotFound = true)
    (made : start.create desired.managed.kind (ownedBy owner desired.managed.kind desired.object) =
      .ok (stored, final))
    (publishes : Publishes owner config false "SuccessfulCreate" final told) :
    Brings desired start
      (⟨desired.read, .error e, start, start⟩ ::
        ⟨.create desired.managed.kind (ownedBy owner desired.managed.kind desired.object),
          .ok stored, start, final⟩ :: told) final
  | updated {current stored : desired.managed.Object} {final : Cluster}
    {told : List (Exchange Cluster)}
    (found : start.find? desired.managed.kind desired.key = some current)
    (drifted : (desired.managed.converge current desired.object).changed = true)
    (written : start.replace desired.managed.kind
      (desired.managed.converge current desired.object).value = .ok (stored, final))
    (publishes : Publishes owner config false "SuccessfulUpdate" final told) :
    Brings desired start
      (⟨desired.read, .ok current, start, start⟩ ::
        ⟨.replace desired.managed.kind (desired.managed.converge current desired.object).value,
          .ok stored, start, final⟩ :: told) final

/-- How an object fails to be brought in line: with one warning, which comes last and names the
    call that failed. Nothing is written. -/
inductive Fails (desired : ManagedObject) (cluster : Cluster) :
    List (Exchange Cluster) → Error → Prop
  | get {e : Error} {told : List (Exchange Cluster)} (unclear : e.isNotFound = false)
    (publishes : Publishes owner config true desired.managed.getFailureReason cluster told) :
    Fails desired cluster (⟨desired.read, .error e, cluster, cluster⟩ :: told) e
  | create {missing e : Error} {told : List (Exchange Cluster)} (absent : missing.isNotFound = true)
    (publishes : Publishes owner config true "FailedCreate" cluster told) :
    Fails desired cluster
      (⟨desired.read, .error missing, cluster, cluster⟩ ::
        ⟨.create desired.managed.kind (ownedBy owner desired.managed.kind desired.object),
          .error e, cluster, cluster⟩ :: told) e
  | update {current : desired.managed.Object} {e : Error} {told : List (Exchange Cluster)}
    (drifted : (desired.managed.converge current desired.object).changed = true)
    (publishes : Publishes owner config true "FailedUpdate" cluster told) :
    Fails desired cluster
      (⟨desired.read, .ok current, cluster, cluster⟩ ::
        ⟨.replace desired.managed.kind (desired.managed.converge current desired.object).value,
          .error e, cluster, cluster⟩ :: told) e

inductive BringsAll :
    List ManagedObject → Cluster → List (Exchange Cluster) → Cluster → Prop
  | nil {cluster : Cluster} : BringsAll [] cluster [] cluster
  | cons {desired : ManagedObject} {objects : List ManagedObject} {start middle final : Cluster}
    {first rest : List (Exchange Cluster)} (head : Brings owner config desired start first middle)
    (tail : BringsAll objects middle rest final) :
    BringsAll (desired :: objects) start (first ++ rest) final

/-- How a pass over some objects goes: to the end, or up to the first that fails. That one and those
    after it are left as they were. -/
inductive Passes (objects : List ManagedObject) (start : Cluster) :
    List (Exchange Cluster) → Except Error Unit → Cluster → Prop
  | completed {trace : List (Exchange Cluster)} {final : Cluster}
    (brings : BringsAll owner config objects start trace final) :
    Passes objects start trace (.ok ()) final
  | stopped {done rest : List ManagedObject} {desired : ManagedObject}
    {first last : List (Exchange Cluster)} {e : Error} {final : Cluster}
    (split : objects = done ++ desired :: rest)
    (brings : BringsAll owner config done start first final)
    (fails : Fails owner config desired final last e)
    (untouched : ∀ other ∈ desired :: rest, final.find? other.managed.kind other.key =
      start.find? other.managed.kind other.key) :
    Passes objects start (first ++ last) (.error e) final

end

variable {owner : AutoscalerController} {config : Config} {desired other : ManagedObject}
  {objects : List ManagedObject} {circumstances : Circumstances} {start final : Cluster}
  {trace : List (Exchange Cluster)} {result : Except Error Unit}

theorem publishes_of_runs {event : Event} {value : Unit}
    (run : (publish (some event)).Runs (closedWorld circumstances) start trace value final) :
    final = start ∧ ∃ answer, trace = [⟨.publish event, answer, start, start⟩] := by
  obtain ⟨answer, after, rest, rfl, last, rfl⟩ := closed_ask_iff.mp run
  obtain ⟨rfl, -, rfl⟩ := closed_done_iff.mp last
  exact ⟨rfl, answer, rfl⟩

theorem reconcileAndTell_told (complete : desired.Complete) (keyed : start.Keyed)
    (run : (reconcileAndTell owner config desired).Runs (closedWorld circumstances) start trace
      result final) :
    result = .ok () ∧ Brings owner config desired start trace final ∧
        final = start.brought owner desired ∨
      ∃ e, result = .error e ∧ Fails owner config desired start trace e ∧ final = start := by
  obtain ⟨first, outcome, middle, rest, object, told, rfl⟩ := runs_bind_iff.mp run
  obtain ⟨second, value, between, last, published, done, rfl⟩ := runs_bind_iff.mp told
  obtain ⟨rfl, rfl, rfl⟩ := closed_done_iff.mp done
  replace object := objectRun_of_runs object
  have brought : (∃ done, outcome = .ok done) → middle = start.brought owner desired := by
    rintro ⟨done, rfl⟩
    rcases object.effect complete keyed with ⟨-, brought⟩ | ⟨⟨_, failed⟩, -⟩
    · exact brought
    · cases failed
  rw [List.append_nil]
  cases object with
  | kept moved read same left =>
    obtain rfl := closedWorld_moves moved
    obtain ⟨found, rfl⟩ := answers_get_ok read
    obtain rfl := closedWorld_moves left
    obtain ⟨rfl, -, rfl⟩ := closed_done_iff.mp published
    exact .inl ⟨rfl, .kept found same, brought ⟨_, rfl⟩⟩
  | @updated _ _ _ _ _ _ answer moved read drifted further answered left =>
    obtain rfl := closedWorld_moves moved
    obtain ⟨found, rfl⟩ := answers_get_ok read
    obtain rfl := closedWorld_moves further
    obtain rfl := closedWorld_moves left
    cases answer with
    | ok stored =>
      obtain ⟨rfl, _, rfl⟩ := publishes_of_runs published
      exact .inl
        ⟨rfl, .updated found drifted answered ⟨_, _, rfl, rfl, rfl, rfl⟩, brought ⟨_, rfl⟩⟩
    | error e =>
      obtain ⟨rfl, _, rfl⟩ := publishes_of_runs published
      obtain ⟨rfl, -⟩ := answered
      exact .inr ⟨e, rfl, .update drifted ⟨_, _, rfl, rfl, rfl, rfl⟩, rfl⟩
  | @created _ _ _ _ _ _ answer moved read absent further answered left =>
    obtain rfl := closedWorld_moves moved
    obtain ⟨rfl, -⟩ := answers_get_error read
    obtain rfl := closedWorld_moves further
    obtain rfl := closedWorld_moves left
    cases answer with
    | ok stored =>
      obtain ⟨rfl, _, rfl⟩ := publishes_of_runs published
      exact .inl
        ⟨rfl, .created absent answered ⟨_, _, rfl, rfl, rfl, rfl⟩, brought ⟨_, rfl⟩⟩
    | error e =>
      obtain ⟨rfl, _, rfl⟩ := publishes_of_runs published
      obtain ⟨rfl, -⟩ := answered
      exact .inr ⟨e, rfl, .create absent ⟨_, _, rfl, rfl, rfl, rfl⟩, rfl⟩
  | unread moved read unclear left =>
    obtain rfl := closedWorld_moves moved
    obtain ⟨rfl, -⟩ := answers_get_error read
    obtain rfl := closedWorld_moves left
    obtain ⟨rfl, _, rfl⟩ := publishes_of_runs published
    exact .inr ⟨_, rfl, .get unclear ⟨_, _, rfl, rfl, rfl, rfl⟩, rfl⟩

theorem reconcileAll_told (complete : ∀ desired ∈ objects, desired.Complete)
    (apart : objects.Pairwise ManagedObject.Apart) (keyed : start.Keyed)
    (run : (reconcileAll owner config objects).Runs (closedWorld circumstances) start trace result
      final) : Passes owner config objects start trace result final := by
  induction objects generalizing start trace with
  | nil =>
    obtain ⟨rfl, rfl, rfl⟩ := closed_done_iff.mp run
    exact .completed .nil
  | cons desired rest ih =>
    obtain ⟨others, apart⟩ := List.pairwise_cons.mp apart
    have whole := complete desired List.mem_cons_self
    obtain ⟨first, told, middle, last, head, tail, rfl⟩ := runs_bind_iff.mp run
    rcases reconcileAndTell_told whole keyed head with ⟨rfl, brings, rfl⟩ | ⟨e, rfl, fails, rfl⟩
    · have later := ih (fun other member => complete other (List.mem_cons_of_mem _ member)) apart
        (keyed.brought owner whole) tail
      cases later with
      | completed all => exact .completed (.cons brings all)
      | stopped split all fails untouched =>
        rw [← List.append_assoc]
        refine .stopped (congrArg (desired :: ·) split) (.cons brings all) fails ?_
        -- What has not been reached yet lies apart from what was written first.
        intro other member
        have reached : other ∈ rest := by
          rw [split]
          exact List.mem_append_right _ member
        rw [untouched other member, find?_brought_of_ne (others other reached)]
    · obtain ⟨rfl, rfl, rfl⟩ := closed_done_iff.mp tail
      rw [List.append_nil]
      exact .stopped rfl .nil fails fun other member => rfl

theorem reconcileObject_ignoresSink (owner : AutoscalerController) (managed : ManagedKind)
    (desired : managed.Object) : (reconcileObject owner managed desired).IgnoresSink := by
  refine ignoresSink_bind (ignoresSink_ask id) fun answer => ?_
  cases answer with
  | ok current =>
    change IgnoresSink (if (managed.converge current desired).changed then _ else _)
    split
    · exact ignoresSink_bind (ignoresSink_ask id) fun answer => by cases answer <;> trivial
    · trivial
  | error e =>
    change IgnoresSink (if e.isNotFound then _ else _)
    split
    · exact ignoresSink_bind (ignoresSink_ask id) fun answer => by cases answer <;> trivial
    · trivial

theorem reconcileAll_ignoresSink (owner : AutoscalerController) (config : Config)
    (objects : List ManagedObject) : (reconcileAll owner config objects).IgnoresSink := by
  have publishing (event? : Option Event) : (publish event?).IgnoresSink := by
    cases event? with
    | none => trivial
    | some event => exact ⟨fun _ _ _ => rfl, fun _ => trivial⟩
  induction objects with
  | nil => trivial
  | cons desired rest ih =>
    refine ignoresSink_bind ?_ fun told => ?_
    · refine ignoresSink_bind (reconcileObject_ignoresSink owner _ _) fun outcome => ?_
      exact ignoresSink_bind (publishing _) fun _ => trivial
    · cases told with
      | ok _ => exact ih
      | error e => trivial

theorem reconcile_ignoresSink (config : Config) (namespaceName name : String) :
    (reconcile config namespaceName name).IgnoresSink := by
  unfold reconcile
  split
  · refine ignoresSink_bind (ignoresSink_ask id) fun answer => ?_
    cases answer with
    | ok owner => exact reconcileAll_ignoresSink owner config _
    | error e =>
      change IgnoresSink (if e.isNotFound then _ else _)
      split <;> trivial
  · trivial

/-- A pass over what an instance owns, whatever fails in it: the objects in order up to the first
    that fails, with an event for each that was written and a warning for the one that failed. What
    a sink makes of the events is of no consequence. -/
theorem reconcile_told {namespaceName : String} {before opened : Cluster} (keyed : start.Keyed)
    (run : (reconcile config namespaceName config.name).Runs (closedWorld circumstances) start
      (⟨.get .controller (some namespaceName) config.name, .ok owner, before, opened⟩ :: trace)
      result final) :
    Passes owner config
        [⟨.deployment, desiredDeployment .recommender owner config⟩,
          ⟨.deployment, desiredDeployment .updater owner config⟩,
          ⟨.deployment, desiredDeployment .admission owner config⟩,
          ⟨.service, desiredService config⟩, ⟨.configMap, desiredConfigMap config⟩]
        start trace result final ∧
      ∀ other, List.Forall₂ Exchange.SameButSink trace other →
        (reconcile config namespaceName config.name).Runs (closedWorld circumstances) start
          (⟨.get .controller (some namespaceName) config.name, .ok owner, before, opened⟩ :: other)
          result final := by
  have ignores := reconcile_ignoresSink config namespaceName config.name
  refine ⟨?_, fun other same => run.with_sink ignores (.cons (.same _) same)⟩
  unfold reconcile at run
  rw [if_pos rfl] at run
  obtain ⟨answer, _, rest, read, upon, same⟩ := closed_ask_iff.mp run
  cases same
  obtain ⟨found, rfl⟩ := answers_get_ok read
  exact reconcileAll_told (complete_desiredObjects owner config) (apart_desiredObjects owner config)
    keyed upon

def Simulation.refusing : Simulation where
  cluster := Simulation.neglected.cluster.fail .replace .service
  isSinkBroken := true
  clock := default

theorem refusing_told :
    let pass := (reconcile {} "here" "default").run Simulation.handle .refusing
    pass.1 = .error (injectedFailure .replace .service) ∧
      ∃ owner trace, Passes owner {}
        [⟨.deployment, desiredDeployment .recommender owner {}⟩,
          ⟨.deployment, desiredDeployment .updater owner {}⟩,
          ⟨.deployment, desiredDeployment .admission owner {}⟩,
          ⟨.service, desiredService {}⟩, ⟨.configMap, desiredConfigMap {}⟩]
        Simulation.refusing.cluster trace pass.1 pass.2.cluster := by
  intro pass
  have keyed : Simulation.refusing.cluster.Keyed := Simulation.keyed_neglected
  have run := Simulation.refusing.runs (reconcile {} "here" "default")
  obtain ⟨owner, before, opened, trace, same⟩ : ∃ owner before opened trace,
      Simulation.refusing.exchanges (reconcile {} "here" "default") =
        ⟨.get .controller (some "here") "default", .ok owner, before, opened⟩ :: trace :=
    ⟨_, _, _, _, rfl⟩
  rw [same] at run
  exact ⟨rfl, owner, trace, (reconcile_told keyed run).1⟩

end AutoscalerOperator
