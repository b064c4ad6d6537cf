import AutoscalerOperator.Proofs.SelfHeal.Once

namespace AutoscalerOperator

open Kubernetes Program Cluster

def Call.MarksOnly (c : Call) : Prop :=
  c.writes? = some .ns → ∃ watched : Namespace, c = .replace .ns watched.marked

def Exchange.Marks {σ : Type} (space : String) : Exchange σ → Prop
  | ⟨.replace .ns object, .ok _, _, _⟩ =>
    keyOf .ns object = .ok ⟨none, space⟩ ∧ isMarked object = true
  | _ => False

theorem Exchange.Marks.writes? {σ : Type} {space : String} {exchange : Exchange σ}
    (marks : exchange.Marks space) : exchange.call.writes? = some .ns := by
  unfold Exchange.Marks at marks
  split at marks
  · rfl
  · cases marks

section

variable {space : String} {circumstances : Circumstances} {config : Config}
  {start before after final : Cluster} {trace more : List (Exchange Cluster)}

theorem marked_answers {c : Call} {answer : c.Answer} (only : c.MarksOnly)
    (answered : (closedWorld circumstances).answers c before answer after) :
    after.Marked space ↔
      before.Marked space ∨ Exchange.Marks space ⟨c, answer, before, after⟩ := by
  by_cases writes : c.writes? = some .ns
  · obtain ⟨watched, rfl⟩ := only writes
    cases answer with
    | error e =>
      rw [answered.1]
      exact (or_iff_left id).symm
    | ok stored =>
      obtain ⟨key, existing, keyed, found, -, -, rfl⟩ := update_eq_ok answered
      by_cases here : key = ⟨none, space⟩
      · subst here
        have mark := isMarked_marked watched
        exact iff_of_true ⟨_, find?_replaced _ found, mark⟩ (.inr ⟨keyed, mark⟩)
      · have elsewhere : ¬Exchange.Marks space ⟨.replace .ns watched.marked, .ok stored, before,
            before.write .ns key (before.replaced .ns existing watched.marked)⟩ := by
          rintro ⟨place, -⟩
          exact here (Except.ok.inj (keyed.symm.trans place))
        rw [or_iff_left elsewhere]
        unfold Marked
        rw [find?_write_of_key_ne before _ here]
  · have unwritten : ¬Exchange.Marks space ⟨c, answer, before, after⟩ :=
      fun marks => writes marks.writes?
    rw [or_iff_left unwritten]
    unfold Marked
    rw [find?_answers writes answered]

theorem marked_run {α : Type} {program : Program α} {value : α}
    (only : program.Only Call.MarksOnly)
    (run : program.Runs (closedWorld circumstances) start trace value final) :
    final.Marked space ↔ start.Marked space ∨ ∃ exchange ∈ trace, exchange.Marks space := by
  induction run with
  | done moved =>
    rw [closedWorld_moves moved]
    simp
  | call moved answered _ ih =>
    obtain rfl := closedWorld_moves moved
    rw [ih (only.2 _), marked_answers only.1 answered, or_assoc]
    simp only [List.mem_cons, exists_eq_or_imp]

theorem createDefault_marksOnly (config : Config) (watched : Option Namespace) :
    (createDefault config watched).Only Call.MarksOnly := by
  have marking : (markCreated watched).Only Call.MarksOnly := by
    cases watched with
    | none => trivial
    | some space =>
      refine only_bind (only_ask fun _ => ⟨space, rfl⟩) fun answer => ?_
      cases answer <;> trivial
  refine only_bind (only_ask nofun) fun answer => ?_
  cases answer with
  | ok stored => exact marking
  | error e =>
    change Only _ (if e.isAlreadyExists then _ else _)
    split
    · exact marking
    · trivial

theorem healOnce_marksOnly (config : Config) : (healOnce config).Only Call.MarksOnly := by
  refine only_bind (only_ask nofun) fun answer => ?_
  cases answer with
  | ok current => trivial
  | error e =>
    change Only _ (if e.isNotFound then _ else _)
    split
    · refine only_bind (only_ask nofun) fun watched => ?_
      change Only _ (if watched.toOption.any isMarked then _ else _)
      split
      · trivial
      · exact createDefault_marksOnly config _
    · trivial

theorem healWithin_marksOnly (config : Config) (interval attempts : Nat) :
    (healWithin config interval attempts).Only Call.MarksOnly := by
  induction attempts with
  | zero => trivial
  | succ attempts ih =>
    refine only_bind (only_ask nofun) fun _ => only_bind (only_ask nofun) fun ready => ?_
    cases ready with
    | true => exact only_bind (healOnce_marksOnly config) fun _ => trivial
    | false => exact ih

theorem healOnce_silent {current : AutoscalerController} {result : Except Error Unit}
    (honest : circumstances.Honest)
    (stored : start.find? .controller ⟨some config.watchNamespace, config.name⟩ = some current)
    (run : (healOnce config).Runs (closedWorld circumstances) start trace result final) :
    final = start ∧ ∀ exchange ∈ trace, exchange.call.Silent := by
  obtain ⟨answer, _, rest, read, upon, rfl⟩ := closed_ask_iff.mp run
  obtain rfl := answers_get_same read
  -- The first read is also the last one: the namespace is not looked at where the instance is.
  cases answer with
  | ok existing =>
    obtain ⟨rfl, -, same⟩ := closed_done_iff.mp upon
    exact ⟨same, List.forall_mem_singleton.mpr trivial⟩
  | error e =>
    change Runs _ (if e.isNotFound then _ else _) _ _ _ _ at upon
    rw [if_neg (answers_get_of_stored honest stored read)] at upon
    obtain ⟨rfl, -, same⟩ := closed_done_iff.mp upon
    exact ⟨same, List.forall_mem_singleton.mpr trivial⟩

theorem healWithin_silent {current : AutoscalerController} {interval attempts : Nat} {value : Unit}
    (honest : circumstances.Honest)
    (stored : start.find? .controller ⟨some config.watchNamespace, config.name⟩ = some current)
    (run : (healWithin config interval attempts).Runs (closedWorld circumstances) start trace value
      final) : final = start ∧ ∀ exchange ∈ trace, exchange.call.Silent := by
  obtain ⟨waiting, rest, rfl, waits, last⟩ := runs_healWithin run
  have waited : ∀ exchange ∈ waiting, exchange.call.Silent := fun exchange member =>
    (waits exchange member).1.silent
  rcases last with ⟨rfl, same⟩ | ⟨result, heals⟩
  · exact ⟨same, by simpa using waited⟩
  · obtain ⟨same, silent⟩ := healOnce_silent honest stored heals
    exact ⟨same, List.forall_mem_append.mpr ⟨waited, silent⟩⟩

theorem createInstance_succeeds {answer : Except Error AutoscalerController}
    (untroubled : start.Untroubled circumstances)
    (missing : start.find? .controller ⟨some config.watchNamespace, config.name⟩ = none)
    (answered : (closedWorld circumstances).answers config.createInstance start answer final) :
    ∃ stored, answer = .ok stored := by
  have working : (Verb.create, Kind.controller) ∉ start.failing := by simp [untroubled.working]
  have keyed : keyOf .controller (AutoscalerController.defaultInstance config.name
      config.watchNamespace) = .ok ⟨some config.watchNamespace, config.name⟩ := rfl
  have made := create_of_missing working keyed missing
  cases answer with
  | ok stored => exact ⟨stored, rfl⟩
  | error e =>
    obtain ⟨-, failed | failed⟩ := answered
    · cases made.symm.trans failed
    · exact absurd failed (untroubled.calm e)

theorem healOnce_creates_iff {result : Except Error Unit}
    (untroubled : start.Untroubled circumstances)
    (missing : start.find? .controller ⟨some config.watchNamespace, config.name⟩ = none)
    (run : (healOnce config).Runs (closedWorld circumstances) start trace result final) :
    (∃ exchange ∈ trace, exchange.creates = true) ↔ ¬start.Marked config.watchNamespace := by
  have answered := run.answered
  cases healRun_of_runs run with
  | found stored => cases missing.symm.trans stored
  | @unread e unclear =>
    obtain ⟨-, -, rfl⟩ := untroubled.answers_get_error (answered _ (.head _))
    cases unclear
  | spared absent seen marked =>
    have mark : start.Marked config.watchNamespace := ⟨_, (answers_get_ok seen).1, marked⟩
    simp [mark, Exchange.creates]
  | refused absent seen unmarked failed =>
    obtain ⟨stored, created⟩ := createInstance_succeeds untroubled missing
      (answered _ (.tail _ (.tail _ (.head _))))
    cases created
  | unseen absent seen made stands =>
    obtain ⟨stored, rfl⟩ := createInstance_succeeds untroubled missing made
    obtain ⟨-, unspaced, -⟩ := untroubled.answers_get_error seen
    have unmarked : ¬start.Marked config.watchNamespace := by
      rintro ⟨watched, found, -⟩
      cases unspaced.symm.trans found
    simp [unmarked, Exchange.creates]
  | marking absent seen unmarked made stands written =>
    obtain ⟨stored, rfl⟩ := createInstance_succeeds untroubled missing made
    have clear : ¬start.Marked config.watchNamespace := by
      rintro ⟨watched, found, marked⟩
      cases (answers_get_ok seen).1.symm.trans found
      cases unmarked.symm.trans marked
    simp [clear, Exchange.creates]

end

/-- The operator starts again and again and looks after the default instance, whatever fails. In
    between, others do what they like with everything but the watched namespace. The exchanges are
    those of the operator. -/
inductive Restarts (space : String) (start : Cluster) : List (Exchange Cluster) → Cluster → Prop
  | start : Restarts space start [] start
  | heal {config : Config} {interval : Nat} {circumstances : Circumstances}
    {trace more : List (Exchange Cluster)} {before after : Cluster}
    (restarts : Restarts space start trace before)
    (run : (ensureDefaultInstance config interval).Runs (closedWorld circumstances) before more ()
      after) : Restarts space start (trace ++ more) after
  | others {trace : List (Exchange Cluster)} {before after : Cluster}
    (restarts : Restarts space start trace before)
    (same : after.find? .ns ⟨none, space⟩ = before.find? .ns ⟨none, space⟩) :
    Restarts space start trace after

theorem Restarts.marked_iff {space : String} {start final : Cluster}
    {trace : List (Exchange Cluster)} (restarts : Restarts space start trace final) :
    final.Marked space ↔ start.Marked space ∨ ∃ exchange ∈ trace, exchange.Marks space := by
  induction restarts with
  | start => simp
  | heal _ run ih =>
    rw [marked_run (healWithin_marksOnly ..) run, ih, or_assoc]
    simp only [List.mem_append, or_and_right, exists_or]
  | others _ same ih =>
    rw [← ih]
    exact ⟨fun marked => marked.of_same same.symm, fun marked => marked.of_same same⟩

structure Cluster.Deprived (config : Config) (before after : Cluster) : Prop where
  missing : after.find? .controller ⟨some config.watchNamespace, config.name⟩ = none
  same : ∀ key, after.find? .ns key = before.find? .ns key

/-- A mark that could not be written along with the instance is not made up for while the instance
    is there: the deletion of the instance sticks exactly if one of those writes went through. -/
theorem deletion_sticks_iff_mark_written {config : Config} {interval : Nat}
    {circumstances : Circumstances} {start before after : Cluster}
    {trace more : List (Exchange Cluster)} {current : AutoscalerController}
    (restarts : Restarts config.watchNamespace start trace before)
    (honest : circumstances.Honest)
    (stored : before.find? .controller ⟨some config.watchNamespace, config.name⟩ = some current)
    (run : (ensureDefaultInstance config interval).Runs (closedWorld circumstances) before more ()
      after) :
    (after = before ∧ ∀ exchange ∈ more, exchange.call.Silent) ∧
    (after.Marked config.watchNamespace ↔
      start.Marked config.watchNamespace ∨ ∃ exchange ∈ trace, exchange.Marks config.watchNamespace) ∧
    ∀ calm deleted further result final, after.Deprived config deleted →
      deleted.Untroubled calm →
      (healOnce config).Runs (closedWorld calm) deleted further result final →
      ((∃ exchange ∈ further, exchange.creates = true) ↔
        ¬start.Marked config.watchNamespace ∧
          ∀ exchange ∈ trace, ¬exchange.Marks config.watchNamespace) := by
  obtain ⟨rfl, silent⟩ := healWithin_silent honest stored run
  have marked := restarts.marked_iff
  refine ⟨⟨rfl, silent⟩, marked, ?_⟩
  intro calm deleted further result final deprived untroubled heals
  have still : deleted.Marked config.watchNamespace ↔ after.Marked config.watchNamespace :=
    ⟨fun marked => marked.of_same (deprived.same _).symm,
      fun marked => marked.of_same (deprived.same _)⟩
  rw [healOnce_creates_iff untroubled deprived.missing heals, still, marked, not_or]
  simp only [not_exists, not_and]

def Simulation.unmarkable : Simulation where
  cluster := Simulation.spaced.cluster
  traps := [{
    verb := .replace
    kind := .ns
    effect := .fail (Cluster.injectedFailure .replace .ns) }]
  clock := default

/-- The instance comes back after its deletion, although the operator started again meanwhile. -/
theorem unmarked_deletion_undone :
    let config : Config := { watchNamespace := "here" }
    let program := ensureDefaultInstance config 0
    let first := (program.run Simulation.handle .unmarkable).2
    let second := (program.run Simulation.handle first).2
    let deleted : Simulation := { second with
      traps := []
      cluster := second.cluster.without .controller }
    second.cluster = first.cluster ∧ ¬second.cluster.Marked "here" ∧
      ∃ exchange ∈ deleted.exchanges (healOnce config), exchange.creates = true := by
  intro config program first second deleted
  have healed : Restarts config.watchNamespace Simulation.unmarkable.cluster _ first.cluster :=
    .heal .start (Simulation.unmarkable.runs program)
  have honest : first.circumstances.Honest := by
    intro e failed
    cases List.mem_singleton.mp failed
    rfl
  have deprived : second.cluster.Deprived config deleted.cluster := ⟨rfl, fun _ => rfl⟩
  obtain ⟨⟨same, -⟩, marked, recreated⟩ :=
    deletion_sticks_iff_mark_written healed honest rfl (first.runs program)
  have unmarked : ¬second.cluster.Marked "here" := by
    rintro ⟨watched, ⟨⟩, marked⟩
    cases marked
  refine ⟨same, unmarked, ?_⟩
  have none := not_or.mp fun written => unmarked (marked.mpr written)
  refine (recreated _ _ _ _ _ deprived (Simulation.untroubled rfl rfl)
    (deleted.runs (healOnce config))).mpr ⟨none.1, fun exchange member marks => ?_⟩
  exact none.2 ⟨exchange, member, marks⟩

/-- It is not so that a later start marks the namespace of an instance that the operator created. -/
theorem created_instance_left_unmarked :
    ¬∀ (config : Config) (interval : Nat) (s : Simulation),
      let program := ensureDefaultInstance config interval
      let first := (program.run Simulation.handle s).2
      let second := (program.run Simulation.handle first).2
      (∃ exchange ∈ s.exchanges program, exchange.creates = true) →
      first.cluster.failing = [] → (∀ trap ∈ first.traps, trap.times = 0) →
      (∀ exchange ∈ first.exchanges program, ∀ call ∈ exchange.logged?, call.failure = none) →
      (second.cluster.find? .controller ⟨some config.watchNamespace, config.name⟩).isSome = true →
      second.cluster.Marked config.watchNamespace := by
  intro marks
  have marked := marks { watchNamespace := "here" } 0 .unmarkable
    ⟨_, .tail _ (.tail _ (.tail _ (.tail _ (.head _)))), rfl⟩ rfl (List.forall_mem_singleton.mpr rfl)
  have unfailing : ∀ call, call ∈ some (LoggedCall.mk .get .controller "here" "default" none) →
      call.failure = none := by
    rintro call ⟨⟩
    rfl
  obtain ⟨watched, ⟨⟩, mark⟩ := marked (List.forall_mem_cons.mpr ⟨nofun, List.forall_mem_cons.mpr
    ⟨nofun, List.forall_mem_singleton.mpr unfailing⟩⟩) rfl
  cases mark

end AutoscalerOperator
