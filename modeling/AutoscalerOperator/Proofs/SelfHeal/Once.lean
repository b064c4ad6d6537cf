import AutoscalerOperator.Proofs.Execution.Simulated
import AutoscalerOperator.Proofs.Managed.Stamps
import AutoscalerOperator.Proofs.Reconcile.Pass
import AutoscalerOperator.Proofs.SelfHeal.Runs
import AutoscalerOperator.Proofs.Status.Runs

namespace AutoscalerOperator

open Kubernetes Program Cluster

namespace Cluster

structure Watched (cluster : Cluster) (space : String) : Prop where
  stored : ∃ watched, cluster.find? .ns ⟨none, space⟩ = some watched ∧
    keyOf .ns watched = .ok ⟨none, space⟩
  working : ∀ verb, (verb, .ns) ∉ cluster.failing

def Marked (cluster : Cluster) (space : String) : Prop :=
  ∃ watched, cluster.find? .ns ⟨none, space⟩ = some watched ∧ isMarked watched = true

variable {before after : Cluster} {space : String}

theorem Watched.of_same (watched : before.Watched space) (failing : after.failing = before.failing)
    (same : after.find? .ns ⟨none, space⟩ = before.find? .ns ⟨none, space⟩) :
    after.Watched space := by
  obtain ⟨stored, working⟩ := watched
  constructor
  · rwa [same]
  · rwa [failing]

theorem Marked.of_same (marked : before.Marked space)
    (same : after.find? .ns ⟨none, space⟩ = before.find? .ns ⟨none, space⟩) :
    after.Marked space := by
  unfold Marked
  rwa [same]

end Cluster

def Call.On (kind : Kind) : Call → Prop
  | .get other _ _ | .create other _ | .replace other _ | .replaceStatus other _ => other = kind
  | _ => False

namespace Exchange

def creates {σ : Type} : Exchange σ → Bool
  | ⟨.create .controller _, .ok _, _, _⟩ => true
  | _ => false

/-- Whether a call on a kind was spared the failures that do not come from the cluster. -/
def Spared (kind : Kind) (exchange : Exchange Cluster) : Prop :=
  exchange.call.On kind →
    (closedWorld { failures := fun _ => False }).answers exchange.call exchange.before
      exchange.answer exchange.after

def KeepsInstances (exchange : Exchange Cluster) : Prop :=
  ∀ key object, exchange.before.find? .controller key = some object →
    exchange.after.find? .controller key = some object

end Exchange

/-- What some exchanges have to do with the default instance: they create it once at most, and never
    where the watched namespace is marked. -/
structure CreatesOnce (space : String) (start : Cluster) (trace : List (Exchange Cluster))
    (final : Cluster) : Prop where
  watched : final.Watched space
  marked : start.Marked space → final.Marked space
  once : trace.countP (·.creates) = 0 ∨
    trace.countP (·.creates) = 1 ∧ ¬start.Marked space ∧ final.Marked space
  unmarked : ∀ exchange ∈ trace, exchange.creates = true → ¬exchange.before.Marked space
  keeps : ∀ exchange ∈ trace, exchange.KeepsInstances

section

variable {space : String} {start middle final before after : Cluster}
  {trace first rest : List (Exchange Cluster)} {circumstances : Circumstances}

theorem createsOnce_of_none (watched : final.Watched space)
    (marked : start.Marked space → final.Marked space)
    (none : ∀ exchange ∈ trace, exchange.creates = false)
    (keeps : ∀ exchange ∈ trace, exchange.KeepsInstances) :
    CreatesOnce space start trace final where
  watched
  marked
  once := .inl (List.countP_eq_zero.mpr fun exchange member => by simp [none exchange member])
  unmarked exchange member creates := by
    rw [none exchange member] at creates
    cases creates
  keeps

theorem CreatesOnce.append (head : CreatesOnce space start first middle)
    (tail : CreatesOnce space middle rest final) :
    CreatesOnce space start (first ++ rest) final where
  watched := tail.watched
  marked marked := tail.marked (head.marked marked)
  once := by
    rw [List.countP_append]
    rcases head.once with none | ⟨one, unmarked, marked⟩
    · rcases tail.once with nothing | ⟨one, unmarked, marked⟩
      · exact .inl (by rw [none, nothing])
      · exact .inr ⟨by rw [none, one], fun early => unmarked (head.marked early), marked⟩
    · rcases tail.once with nothing | ⟨-, still, -⟩
      · exact .inr ⟨by rw [one, nothing], unmarked, tail.marked marked⟩
      · exact absurd marked still
  unmarked exchange member := by
    rcases List.mem_append.mp member with member | member
    · exact head.unmarked exchange member
    · exact tail.unmarked exchange member
  keeps exchange member := by
    rcases List.mem_append.mp member with member | member
    · exact head.keeps exchange member
    · exact tail.keeps exchange member

theorem keeps_of_spares {c : Call} {answer : c.Answer} (instances : c.writes? ≠ some .controller)
    (answered : (closedWorld circumstances).answers c before answer after) :
    Exchange.KeepsInstances ⟨c, answer, before, after⟩ := by
  intro key object found
  rw [find?_answers instances answered]
  exact found

theorem keeps_of_create {object : AutoscalerController} {answer : Except Error AutoscalerController}
    (answered : (closedWorld circumstances).answers (.create .controller object) before answer
      after) : Exchange.KeepsInstances ⟨.create .controller object, answer, before, after⟩ := by
  intro key existing found
  cases answer with
  | ok stored => exact find?_of_create answered found
  | error e =>
    rw [answered.1]
    exact found

theorem creates_of_spares {exchange : Exchange Cluster}
    (instances : exchange.call.writes? ≠ some .controller) : exchange.creates = false := by
  unfold Exchange.creates
  split
  · cases instances rfl
  · rfl

theorem createsOnce_elsewhere {c : Call} {answer : c.Answer} (watched : before.Watched space)
    (spaces : c.writes? ≠ some .ns) (instances : c.writes? ≠ some .controller)
    (answered : (closedWorld circumstances).answers c before answer after) :
    CreatesOnce space before [⟨c, answer, before, after⟩] after := by
  have same : after.find? .ns ⟨none, space⟩ = before.find? .ns ⟨none, space⟩ :=
    find?_answers spaces answered
  refine createsOnce_of_none (watched.of_same (failing_answers answered) same)
    (fun marked => marked.of_same same) ?_ ?_
  · intro exchange member
    cases List.mem_singleton.mp member
    exact creates_of_spares instances
  · intro exchange member
    cases List.mem_singleton.mp member
    exact keeps_of_spares instances answered

theorem createsOnce_of_only {α : Type} {program : Program α} {kinds : Kind → Prop} {value : α}
    (only : program.Only (·.WritesOnly kinds)) (spaces : ¬kinds .ns)
    (instances : ¬kinds .controller) (watched : start.Watched space)
    (run : program.Runs (closedWorld circumstances) start trace value final) :
    CreatesOnce space start trace final := by
  induction run with
  | done moved =>
    obtain rfl := closedWorld_moves moved
    exact createsOnce_of_none watched id (by simp) (by simp)
  | call moved answered _ ih =>
    obtain rfl := closedWorld_moves moved
    have first := createsOnce_elsewhere watched (only.1.writes?_ne spaces)
      (only.1.writes?_ne instances) answered
    exact first.append (ih (only.2 _) first.watched)

theorem isMarked_marked (space : Namespace) : isMarked space.marked = true := by
  have annotated := space.metadata.annotation?_annotate createdDefaultAnnotation "true"
    createdDefaultAnnotation
  rw [if_pos rfl] at annotated
  exact congrArg Option.isSome annotated

theorem replaced_marked {watched : Namespace} {told : Except Error Namespace}
    (calm : ∀ e, ¬circumstances.failures e) (known : start.Watched space)
    (found : start.find? .ns ⟨none, space⟩ = some watched)
    (replaced : (closedWorld circumstances).answers (.replace .ns watched.marked) start told
      final) :
    final.Watched space ∧ final.Marked space := by
  obtain ⟨⟨_, stands, keyed⟩, working⟩ := known
  cases stands.symm.trans found
  have own : keyOf .ns watched.marked = .ok ⟨none, space⟩ :=
    (keyOf_eq_ok_iff _).mpr ((keyOf_eq_ok_iff _).mp keyed)
  have done := update_of_current (start.replaced .ns · watched.marked) (working .replace) own found
    (isCurrent_of_resourceVersion rfl)
  cases told with
  | error e =>
    rcases replaced.2 with failed | failed
    · cases done.symm.trans failed
    · exact absurd failed (calm e)
  | ok stored =>
    cases done.symm.trans replaced
    have left := find?_replaced watched.marked found
    refine ⟨⟨⟨_, left, ?_⟩, working⟩, _, left, isMarked_marked watched⟩
    exact (keyOf_eq_ok_iff _).mpr ((keyOf_eq_ok_iff _).mp keyed)

theorem createsOnce_marking {config : Config} {watched : Namespace}
    {answer : Except Error AutoscalerController} {told : Except Error Namespace}
    (known : start.Watched space) (found : start.find? .ns ⟨none, space⟩ = some watched)
    (unmarked : isMarked watched = false)
    (answered : (closedWorld circumstances).answers config.createInstance start answer middle)
    (spared : Exchange.Spared .ns ⟨.replace .ns watched.marked, told, middle, final⟩) :
    CreatesOnce space start
      [⟨config.createInstance, answer, start, middle⟩,
        ⟨.replace .ns watched.marked, told, middle, final⟩] final := by
  have same : middle.find? .ns ⟨none, space⟩ = start.find? .ns ⟨none, space⟩ :=
    find?_answers (by simp [Call.writes?]) answered
  have still : middle.Watched space := known.of_same (failing_answers answered) same
  obtain ⟨watching, marked⟩ := replaced_marked (fun _ => id) still (same.trans found) (spared rfl)
  have fresh : ¬start.Marked space := by
    rintro ⟨other, stands, mark⟩
    cases found.symm.trans stands
    cases unmarked.symm.trans mark
  refine ⟨watching, fun _ => marked, ?_, ?_, ?_⟩
  · cases answer with
    | ok stored => exact .inr ⟨rfl, fresh, marked⟩
    | error e => exact .inl rfl
  · intro exchange member creates
    simp only [List.mem_cons, List.not_mem_nil, or_false] at member
    rcases member with rfl | rfl
    · exact fresh
    · cases creates
  · intro exchange member
    simp only [List.mem_cons, List.not_mem_nil, or_false] at member
    rcases member with rfl | rfl
    · exact keeps_of_create answered
    · exact keeps_of_spares (by simp [Call.writes?]) (spared rfl)

theorem HealRun.createsOnce {config : Config} {result : Except Error Unit}
    (watching : config.watchNamespace = space) (watched : start.Watched space)
    (run : HealRun circumstances config start trace result final)
    (spared : ∀ exchange ∈ trace, exchange.Spared .ns) : CreatesOnce space start trace final := by
  subst watching
  obtain ⟨⟨current, stored, -⟩, working⟩ := id watched
  have reads {answer : Except Error Namespace}
      (exchange : Exchange.Spared .ns ⟨config.readNamespace, answer, start, start⟩) :
      answer = .ok current := by
    have told := (answers_get_of_calm (fun _ => id) (exchange rfl)).2
    exact told.trans ((get_eq_ok_iff _).mpr ⟨working .get, stored⟩)
  have looked {trace : List (Exchange Cluster)}
      (looks : ∀ exchange ∈ trace, exchange.creates = false ∧ exchange.before = exchange.after) :
      CreatesOnce config.watchNamespace start trace start := by
    refine createsOnce_of_none watched id (fun exchange member => (looks exchange member).1) ?_
    intro exchange member key object found
    rwa [← (looks exchange member).2]
  cases run with
  | found | unread | spared | refused =>
    apply looked
    simp [Exchange.creates]
  | @unseen missing e answer created absent seen answered stands =>
    cases reads (spared ⟨config.readNamespace, .error e, start, start⟩ (by simp))
  | @marking missing space answer told created final absent seen unmarked answered stands written =>
    cases reads (spared ⟨config.readNamespace, .ok space, start, start⟩ (by simp))
    have first : CreatesOnce config.watchNamespace start
        [⟨config.readInstance, .error missing, start, start⟩,
          ⟨config.readNamespace, .ok current, start, start⟩] start :=
      looked (by simp [Exchange.creates])
    exact first.append (createsOnce_marking watched stored unmarked answered
      (spared ⟨.replace .ns current.marked, told, created, final⟩ (by simp)))

theorem healWithin_createsOnce {config : Config} {interval attempts : Nat} {value : Unit}
    (watching : config.watchNamespace = space) (watched : start.Watched space)
    (run : (healWithin config interval attempts).Runs (closedWorld circumstances) start trace value
      final)
    (spared : ∀ exchange ∈ trace, exchange.Spared .ns) : CreatesOnce space start trace final := by
  obtain ⟨waiting, rest, rfl, waits, last⟩ := runs_healWithin run
  have waited : CreatesOnce space start waiting start := by
    refine createsOnce_of_none watched id (fun exchange member => ?_)
      fun exchange member key object found => ?_
    · have unwritten := (waits exchange member).1.silent.writes?
      exact creates_of_spares (by simp [unwritten])
    · obtain ⟨-, before, after⟩ := waits exchange member
      rw [after]
      rwa [before] at found
  refine waited.append ?_
  rcases last with ⟨rfl, rfl⟩ | ⟨result, heals⟩
  · exact createsOnce_of_none watched id (by simp) (by simp)
  · exact (healRun_of_runs heals).createsOnce watching watched fun exchange member =>
      spared exchange (List.mem_append_right waiting member)

end

/-- What may happen to a cluster, one thing after the other: the operator starts again and looks
    after the default instance, it passes over what an instance owns, it reports, or others do what
    they like, but for taking the watched namespace away or its mark. The exchanges are those of the
    operator. -/
inductive Life (space : String) (start : Cluster) : List (Exchange Cluster) → Cluster → Prop
  | start : Life space start [] start
  | heal {config : Config} {interval : Nat} {circumstances : Circumstances}
    {trace more : List (Exchange Cluster)} {before after : Cluster}
    (life : Life space start trace before) (watching : config.watchNamespace = space)
    (run : (ensureDefaultInstance config interval).Runs (closedWorld circumstances) before more ()
      after)
    (spared : ∀ exchange ∈ more, exchange.Spared .ns) : Life space start (trace ++ more) after
  | reconcile {config : Config} {namespaceName name : String} {circumstances : Circumstances}
    {trace more : List (Exchange Cluster)} {result : Except Error Unit} {before after : Cluster}
    (life : Life space start trace before)
    (run : (reconcile config namespaceName name).Runs (closedWorld circumstances) before more result
      after) : Life space start (trace ++ more) after
  | report {config : Config} {circumstances : Circumstances}
    {trace more : List (Exchange Cluster)} {result : Except Error Bool} {before after : Cluster}
    (life : Life space start trace before)
    (run : (reportStatus config).Runs (closedWorld circumstances) before more result after) :
    Life space start (trace ++ more) after
  | others {trace : List (Exchange Cluster)} {before after : Cluster}
    (life : Life space start trace before) (watched : after.Watched space)
    (marked : before.Marked space → after.Marked space) : Life space start trace after

theorem Life.createsOnce {space : String} {start final : Cluster} {trace : List (Exchange Cluster)}
    (watched : start.Watched space) (life : Life space start trace final) :
    CreatesOnce space start trace final := by
  induction life with
  | start => exact createsOnce_of_none watched id (by simp) (by simp)
  | heal _ watching run spared ih =>
    exact ih.append (healWithin_createsOnce watching ih.watched run spared)
  | reconcile _ run ih =>
    have other (kind : Kind) (unmanaged : ∀ managed : ManagedKind, managed.kind ≠ kind) :
        ¬kind.IsManaged := fun ⟨managed, same⟩ => unmanaged managed same
    refine ih.append
      (createsOnce_of_only (reconcile_only ..) (other _ ?_) (other _ ?_) ih.watched run)
    all_goals
      intro managed
      cases managed <;> nofun
  | report _ run ih =>
    exact ih.append (createsOnce_of_only (reportStatus_only _) nofun nofun ih.watched run)
  | @others trace before after _ watched marked ih =>
    have more : CreatesOnce space before [] after :=
      createsOnce_of_none watched marked (by simp) (by simp)
    have whole := ih.append more
    rwa [List.append_nil] at whole

/-- However often the operator starts again, and whatever fails, it creates the default instance at
    most once, never where the watched namespace is marked, and it leaves instances as they are. -/
theorem default_instance_created_once {space : String} {start final : Cluster}
    {trace : List (Exchange Cluster)} (watched : start.Watched space)
    (life : Life space start trace final) :
    trace.countP (·.creates) ≤ 1 ∧ (start.Marked space → trace.countP (·.creates) = 0) ∧
      ∀ exchange ∈ trace, (exchange.creates = true → ¬exchange.before.Marked space) ∧
        ∀ key current, exchange.before.find? .controller key = some current →
          exchange.after.find? .controller key = some current := by
  have whole := life.createsOnce watched
  refine ⟨?_, ?_, fun exchange member =>
    ⟨whole.unmarked exchange member, whole.keeps exchange member⟩⟩
  · rcases whole.once with none | ⟨one, -, -⟩ <;> omega
  · intro marked
    rcases whole.once with none | ⟨-, unmarked, -⟩
    · exact none
    · exact absurd marked unmarked

def Cluster.without (cluster : Cluster) (kind : Kind) : Cluster :=
  { cluster with
    objects := fun other key => if other = kind then none else cluster.objects other key }

namespace Simulation

theorem spared_exchanges {α : Type} {s : Simulation} (free : s.traps = []) (program : Program α)
    (kind : Kind) : ∀ exchange ∈ s.exchanges program, exchange.Spared kind := by
  intro exchange member on
  have answered := (runs_steadily free program).answered exchange member
  obtain ⟨c, answer, before, after⟩ := exchange
  cases c with
  | get | create | replace | replaceStatus => exact answered
  | ready | publish | now | cancelled | sleep => cases on

def spaced : Simulation where
  cluster := ({} : Cluster).insert .ns { metadata := { name := "here" } }
  clock := default

end Simulation

theorem deleted_instance_not_created_again :
    let program := ensureDefaultInstance { watchNamespace := "here" } 0
    let first := (program.run Simulation.handle .spaced).2
    let deleted : Simulation := { first with cluster := first.cluster.without .controller }
    let trace := Simulation.spaced.exchanges program ++ deleted.exchanges program
    (Simulation.spaced.exchanges program).countP (·.creates) = 1 ∧ trace.countP (·.creates) ≤ 1 := by
  intro program first deleted trace
  have watched : Simulation.spaced.cluster.Watched "here" :=
    ⟨⟨_, rfl, rfl⟩, fun _ => List.not_mem_nil⟩
  have healed : Life "here" Simulation.spaced.cluster (Simulation.spaced.exchanges program)
      first.cluster :=
    .heal .start rfl (Simulation.spaced.runs program) (Simulation.spared_exchanges rfl program .ns)
  have same : deleted.cluster.find? .ns ⟨none, "here"⟩ = first.cluster.find? .ns ⟨none, "here"⟩ :=
    rfl
  have left : Life "here" Simulation.spaced.cluster (Simulation.spaced.exchanges program)
      deleted.cluster :=
    healed.others ((healed.createsOnce watched).watched.of_same rfl same) (·.of_same same)
  have again : Life "here" Simulation.spaced.cluster trace _ :=
    left.heal rfl (deleted.runs program) (Simulation.spared_exchanges rfl program .ns)
  exact ⟨rfl, (default_instance_created_once watched again).1⟩

end AutoscalerOperator
