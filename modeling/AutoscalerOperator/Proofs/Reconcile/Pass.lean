import AutoscalerOperator.Proofs.Execution.Footprint
import AutoscalerOperator.Proofs.Reconcile.Object

namespace AutoscalerOperator

open Kubernetes Program

namespace Cluster

def passed (cluster : Cluster) (owner : AutoscalerController) (objects : List ManagedObject) :
    Cluster :=
  objects.foldl (·.brought owner ·) cluster

section

variable {cluster : Cluster} {owner : AutoscalerController} {desired : ManagedObject}
  {objects : List ManagedObject}

@[simp] theorem passed_cons (cluster : Cluster) (owner : AutoscalerController)
    (desired : ManagedObject) (objects : List ManagedObject) :
    cluster.passed owner (desired :: objects) =
      (cluster.brought owner desired).passed owner objects :=
  rfl

theorem passed_append (cluster : Cluster) (owner : AutoscalerController)
    (first rest : List ManagedObject) :
    cluster.passed owner (first ++ rest) = (cluster.passed owner first).passed owner rest :=
  List.foldl_append

@[simp] theorem failing_passed (cluster : Cluster) (owner : AutoscalerController)
    (objects : List ManagedObject) : (cluster.passed owner objects).failing = cluster.failing := by
  induction objects generalizing cluster with
  | nil => rfl
  | cons desired rest ih => rw [passed_cons, ih, failing_brought]

theorem find?_passed_of_ne (cluster : Cluster) (owner : AutoscalerController) {kind : Kind}
    {key : ObjectKey} (different : ∀ other ∈ objects, other.managed.kind ≠ kind ∨ other.key ≠ key) :
    (cluster.passed owner objects).find? kind key = cluster.find? kind key := by
  induction objects generalizing cluster with
  | nil => rfl
  | cons other rest ih =>
    have later := ih (cluster.brought owner other) fun later member =>
      different later (List.mem_cons_of_mem _ member)
    rw [passed_cons, later, find?_brought_of_ne (different other List.mem_cons_self)]

theorem find?_passed_controller (cluster : Cluster) (owner : AutoscalerController)
    (objects : List ManagedObject) (key : ObjectKey) :
    (cluster.passed owner objects).find? .controller key = cluster.find? .controller key :=
  find?_passed_of_ne cluster owner fun other _ => .inl (by cases other.managed <;> nofun)

theorem find?_passed (cluster : Cluster) (owner : AutoscalerController)
    (apart : objects.Pairwise ManagedObject.Apart) (member : desired ∈ objects) :
    ∃ between : Cluster, between.find? desired.managed.kind desired.key =
        cluster.find? desired.managed.kind desired.key ∧
      (cluster.passed owner objects).find? desired.managed.kind desired.key =
        (between.brought owner desired).find? desired.managed.kind desired.key := by
  induction objects generalizing cluster with
  | nil => cases member
  | cons first rest ih =>
    obtain ⟨others, apart⟩ := List.pairwise_cons.mp apart
    rw [passed_cons]
    rcases List.mem_cons.mp member with rfl | member
    · exact ⟨cluster, rfl, find?_passed_of_ne _ owner fun other member =>
        (others other member).symm⟩
    · obtain ⟨between, same, found⟩ := ih (cluster.brought owner first) apart member
      exact ⟨between, same.trans (find?_brought_of_ne (others desired member)), found⟩

theorem Settled.passed_of_apart (settled : cluster.Settled desired)
    (apart : ∀ other ∈ objects, other.Apart desired) :
    (cluster.passed owner objects).Settled desired := by
  obtain ⟨current, found, same⟩ := settled
  exact ⟨current, (find?_passed_of_ne cluster owner apart).trans found, same⟩

theorem Keyed.passed (keyed : cluster.Keyed) (owner : AutoscalerController)
    (complete : ∀ desired ∈ objects, desired.Complete) : (cluster.passed owner objects).Keyed := by
  induction objects generalizing cluster with
  | nil => exact keyed
  | cons desired rest ih =>
    rw [passed_cons]
    exact ih (keyed.brought owner (complete desired List.mem_cons_self))
      fun other member => complete other (List.mem_cons_of_mem _ member)

theorem settled_passed (cluster : Cluster) (owner : AutoscalerController)
    (complete : ∀ desired ∈ objects, desired.Complete)
    (apart : objects.Pairwise ManagedObject.Apart) :
    ∀ desired ∈ objects, (cluster.passed owner objects).Settled desired := by
  induction objects generalizing cluster with
  | nil => intro desired member; cases member
  | cons first rest ih =>
    obtain ⟨others, apart⟩ := List.pairwise_cons.mp apart
    intro desired member
    rw [passed_cons]
    rcases List.mem_cons.mp member with rfl | member
    · have settled := settled_brought cluster owner (complete desired List.mem_cons_self)
      exact settled.passed_of_apart fun other member => (others other member).symm
    · exact ih _ (fun other member => complete other (List.mem_cons_of_mem _ member)) apart
        desired member

theorem passed_of_settled (owner : AutoscalerController)
    (settled : ∀ desired ∈ objects, cluster.Settled desired) :
    cluster.passed owner objects = cluster := by
  induction objects with
  | nil => rfl
  | cons desired rest ih =>
    rw [passed_cons, (settled desired List.mem_cons_self).brought_eq]
    exact ih fun other member => settled other (List.mem_cons_of_mem _ member)

end

/-- The cluster after a pass in which nothing fails. -/
def reconciled (cluster : Cluster) (config : Config) (namespaceName name : String) : Cluster :=
  if name = config.name then
    match cluster.find? .controller ⟨some namespaceName, name⟩ with
    | some owner => cluster.passed owner (desiredObjects owner config)
    | none => cluster
  else cluster

end Cluster

section

variable {circumstances : Circumstances} {cluster final : Cluster} {owner : AutoscalerController}
  {config : Config} {desired : ManagedObject} {objects : List ManagedObject}
  {trace : List (Exchange Cluster)} {result : Except Error Unit}

open Cluster

theorem reconcileAll_effect (complete : ∀ desired ∈ objects, desired.Complete)
    (keyed : cluster.Keyed)
    (run : (reconcileAll owner config objects).Runs (closedWorld circumstances) cluster trace result
      final) :
    ∃ done rest, objects = done ++ rest ∧ final = cluster.passed owner done ∧
      (result = .ok () → rest = []) := by
  -- The later objects are brought in line in the cluster that the first one has left.
  induction objects generalizing cluster trace with
  | nil =>
    obtain ⟨-, -, rfl⟩ := closed_done_iff.mp run
    exact ⟨[], [], rfl, rfl, fun _ => rfl⟩
  | cons desired rest ih =>
    obtain ⟨first, told, middle, last, head, tail, rfl⟩ := runs_bind_iff.mp run
    obtain ⟨_, outcome, _, _, object, moved, rfl, -, -⟩ := runs_reconcileAndTell head
    obtain rfl := closedWorld_moves moved
    have whole := complete desired List.mem_cons_self
    rcases object.effect whole keyed with ⟨⟨_, rfl⟩, rfl⟩ | ⟨⟨failure, rfl⟩, rfl⟩
    · have others : ∀ other ∈ rest, other.Complete :=
        fun other member => complete other (List.mem_cons_of_mem _ member)
      obtain ⟨done, left, rfl, effect, whole⟩ := ih others (keyed.brought owner whole) tail
      exact ⟨desired :: done, left, rfl, effect, whole⟩
    · obtain ⟨-, rfl, rfl⟩ := closed_done_iff.mp tail
      exact ⟨[], desired :: rest, rfl, rfl, nofun⟩

theorem reconcileAll_succeeds (complete : ∀ desired ∈ objects, desired.Complete)
    (keyed : cluster.Keyed) (untroubled : cluster.Untroubled circumstances)
    (run : (reconcileAll owner config objects).Runs (closedWorld circumstances) cluster trace result
      final) : result = .ok () := by
  induction objects generalizing cluster trace with
  | nil => exact (closed_done_iff.mp run).2.1
  | cons desired rest ih =>
    obtain ⟨first, told, middle, last, head, tail, rfl⟩ := runs_bind_iff.mp run
    obtain ⟨_, outcome, _, _, object, moved, rfl, -, -⟩ := runs_reconcileAndTell head
    obtain rfl := closedWorld_moves moved
    have whole := complete desired List.mem_cons_self
    obtain ⟨_, rfl⟩ := object.succeeds whole keyed untroubled
    obtain ⟨-, rfl⟩ | ⟨⟨_, failed⟩, -⟩ := object.effect whole keyed
    · have others : ∀ other ∈ rest, other.Complete :=
        fun other member => complete other (List.mem_cons_of_mem _ member)
      exact ih others (keyed.brought owner whole) (untroubled.brought owner desired) tail
    · cases failed

theorem reconcileAll_readable (complete : ∀ desired ∈ objects, desired.Complete)
    (keyed : cluster.Keyed) (honest : circumstances.Honest)
    (run : (reconcileAll owner config objects).Runs (closedWorld circumstances) cluster trace
      (.ok ()) final) :
    ∀ desired ∈ objects, (.get, desired.managed.kind) ∉ cluster.failing := by
  induction objects generalizing cluster trace with
  | nil => exact fun _ => nofun
  | cons desired rest ih =>
    obtain ⟨first, told, middle, last, head, tail, rfl⟩ := runs_bind_iff.mp run
    obtain ⟨_, outcome, _, _, object, moved, rfl, -, -⟩ := runs_reconcileAndTell head
    obtain rfl := closedWorld_moves moved
    have whole := complete desired List.mem_cons_self
    rcases object.effect whole keyed with ⟨⟨_, rfl⟩, rfl⟩ | ⟨⟨failure, rfl⟩, -⟩
    · have others : ∀ other ∈ rest, other.Complete :=
        fun other member => complete other (List.mem_cons_of_mem _ member)
      have later := ih others (keyed.brought owner whole) tail
      rw [failing_brought] at later
      exact List.forall_mem_cons.mpr ⟨object.readable honest, later⟩
    · obtain ⟨-, failed, -⟩ := closed_done_iff.mp tail
      cases failed

theorem reconcileAll_quiet (settled : ∀ desired ∈ objects, cluster.Settled desired)
    (untroubled : cluster.Untroubled circumstances)
    (run : (reconcileAll owner config objects).Runs (closedWorld circumstances) cluster trace result
      final) : ∀ exchange ∈ trace, exchange.call.Reads := by
  induction objects generalizing trace with
  | nil =>
    obtain ⟨rfl, -, -⟩ := closed_done_iff.mp run
    intro exchange member
    cases member
  | cons desired rest ih =>
    obtain ⟨first, told, middle, last, head, tail, rfl⟩ := runs_bind_iff.mp run
    obtain ⟨reads, outcome, _, events, object, moved, rfl, rfl, told⟩ := runs_reconcileAndTell head
    obtain rfl := closedWorld_moves moved
    obtain ⟨rfl, rfl, quiet⟩ := object.quiet (settled desired List.mem_cons_self) untroubled
    have others := ih (fun other member => settled other (List.mem_cons_of_mem _ member)) tail
    rw [told.2 rfl, List.append_nil]
    intro exchange member
    rcases List.mem_append.mp member with member | member
    · exact quiet exchange member
    · exact others exchange member

variable {namespaceName name : String}

theorem reconcile_effect (keyed : cluster.Keyed)
    (run : (reconcile config namespaceName name).Runs (closedWorld circumstances) cluster trace
      result final) :
    final = cluster ∨ name = config.name ∧
      ∃ owner done rest, cluster.find? .controller ⟨some namespaceName, name⟩ = some owner ∧
        desiredObjects owner config = done ++ rest ∧ final = cluster.passed owner done := by
  unfold reconcile at run
  by_cases named : name = config.name
  · rw [if_pos named] at run
    obtain ⟨answer, after, rest, read, upon, rfl⟩ := closed_ask_iff.mp run
    cases answer with
    | ok owner =>
      obtain ⟨found, rfl⟩ := answers_get_ok read
      obtain ⟨done, rest, whole, effect, -⟩ :=
        reconcileAll_effect (complete_desiredObjects owner config) keyed upon
      exact .inr ⟨named, owner, done, rest, found, whole, effect⟩
    | error e =>
      obtain ⟨rfl, -⟩ := answers_get_error read
      change Runs _ (if e.isNotFound then _ else _) _ _ _ _ at upon
      split at upon <;>
      · obtain ⟨-, -, rfl⟩ := closed_done_iff.mp upon
        exact .inl rfl
  · rw [if_neg named] at run
    obtain ⟨-, -, rfl⟩ := closed_done_iff.mp run
    exact .inl rfl

theorem reconcile_succeeded {owner : AutoscalerController} (keyed : cluster.Keyed)
    (honest : circumstances.Honest)
    (stored : cluster.find? .controller ⟨some namespaceName, config.name⟩ = some owner)
    (run : (reconcile config namespaceName config.name).Runs (closedWorld circumstances) cluster
      trace (.ok ()) final) :
    final = cluster.passed owner (desiredObjects owner config) ∧
      (.get, .controller) ∉ cluster.failing ∧
      ∀ desired ∈ desiredObjects owner config, (.get, desired.managed.kind) ∉ cluster.failing := by
  unfold reconcile at run
  rw [if_pos rfl] at run
  obtain ⟨answer, after, rest, read, upon, rfl⟩ := closed_ask_iff.mp run
  cases answer with
  | ok found =>
    have readable := readable_of_answers honest read nofun
    obtain ⟨same, rfl⟩ := answers_get_ok read
    cases stored.symm.trans same
    have complete := complete_desiredObjects owner config
    obtain ⟨done, rest, whole, effect, all⟩ := reconcileAll_effect complete keyed upon
    rw [all rfl, List.append_nil] at whole
    rw [whole]
    exact ⟨effect, readable, whole ▸ reconcileAll_readable complete keyed honest upon⟩
  | error e =>
    change Runs _ (if e.isNotFound then _ else _) _ _ _ _ at upon
    rw [if_neg (answers_get_of_stored honest stored read)] at upon
    obtain ⟨-, failed, -⟩ := closed_done_iff.mp upon
    cases failed

theorem reconcile_untroubled (keyed : cluster.Keyed)
    (untroubled : cluster.Untroubled circumstances)
    (run : (reconcile config namespaceName name).Runs (closedWorld circumstances) cluster trace
      result final) :
    result = .ok () ∧ final = cluster.reconciled config namespaceName name := by
  unfold reconcile at run
  unfold Cluster.reconciled
  by_cases named : name = config.name
  · rw [if_pos named] at run ⊢
    obtain ⟨answer, after, rest, read, upon, rfl⟩ := closed_ask_iff.mp run
    cases answer with
    | ok owner =>
      obtain ⟨found, rfl⟩ := answers_get_ok read
      have complete := complete_desiredObjects owner config
      have succeeded := reconcileAll_succeeds complete keyed untroubled upon
      obtain ⟨done, rest, whole, effect, all⟩ := reconcileAll_effect complete keyed upon
      rw [all succeeded, List.append_nil] at whole
      simp only [found, whole]
      exact ⟨succeeded, effect⟩
    | error e =>
      obtain ⟨rfl, missing, rfl⟩ := untroubled.answers_get_error read
      obtain ⟨-, same, unchanged⟩ := closed_done_iff.mp upon
      simp only [missing]
      exact ⟨same, unchanged⟩
  · rw [if_neg named] at run ⊢
    obtain ⟨-, rfl, rfl⟩ := closed_done_iff.mp run
    exact ⟨rfl, rfl⟩

theorem reconcile_quiet {owner : AutoscalerController} (untroubled : cluster.Untroubled circumstances)
    (stored : cluster.find? .controller ⟨some namespaceName, config.name⟩ = some owner)
    (settled : ∀ desired ∈ desiredObjects owner config, cluster.Settled desired)
    (run : (reconcile config namespaceName config.name).Runs (closedWorld circumstances) cluster
      trace result final) : ∀ exchange ∈ trace, exchange.call.Reads := by
  unfold reconcile at run
  rw [if_pos rfl] at run
  obtain ⟨answer, after, rest, read, upon, rfl⟩ := closed_ask_iff.mp run
  intro exchange member
  cases answer with
  | ok found =>
    obtain ⟨same, rfl⟩ := answers_get_ok read
    rw [stored] at same
    cases same
    rcases List.mem_cons.mp member with rfl | member
    · exact True.intro
    · exact reconcileAll_quiet settled untroubled upon exchange member
  | error e =>
    obtain ⟨-, missing, -⟩ := untroubled.answers_get_error read
    rw [stored] at missing
    cases missing

end

def Kind.IsManaged (kind : Kind) : Prop := ∃ managed : ManagedKind, managed.kind = kind

theorem reconcileObject_only (owner : AutoscalerController) (managed : ManagedKind)
    (desired : managed.Object) :
    (reconcileObject owner managed desired).Only (·.WritesOnly Kind.IsManaged) := by
  have writes : managed.kind.IsManaged := ⟨managed, rfl⟩
  refine only_bind (only_ask trivial) fun answer => ?_
  cases answer with
  | ok current =>
    change Only _ (if (managed.converge current desired).changed then _ else _)
    split
    · exact only_bind (only_ask writes) fun answer => by cases answer <;> trivial
    · trivial
  | error e =>
    change Only _ (if e.isNotFound then _ else _)
    split
    · exact only_bind (only_ask writes) fun answer => by cases answer <;> trivial
    · trivial

theorem reconcileAll_only (owner : AutoscalerController) (config : Config)
    (objects : List ManagedObject) :
    (reconcileAll owner config objects).Only (·.WritesOnly Kind.IsManaged) := by
  have publishing (event? : Option Event) :
      (publish event?).Only (·.WritesOnly Kind.IsManaged) := by
    cases event? with
    | none => trivial
    | some event => exact only_bind (only_ask trivial) fun _ => trivial
  induction objects with
  | nil => trivial
  | cons desired rest ih =>
    refine only_bind ?_ fun told => ?_
    · refine only_bind (reconcileObject_only owner _ _) fun outcome => ?_
      exact only_bind (publishing _) fun _ => trivial
    · cases told with
      | ok _ => exact ih
      | error e => trivial

theorem reconcile_only (config : Config) (namespaceName name : String) :
    (reconcile config namespaceName name).Only (·.WritesOnly Kind.IsManaged) := by
  unfold reconcile
  split
  · refine only_bind (only_ask trivial) fun answer => ?_
    cases answer with
    | ok owner => exact reconcileAll_only owner config _
    | error e =>
      change Only _ (if e.isNotFound then _ else _)
      split <;> trivial
  · trivial

end AutoscalerOperator
