import AutoscalerOperator.Proofs.Cluster.Objects
import AutoscalerOperator.Proofs.Execution.Runs
import AutoscalerOperator.Simulation.Basic

namespace AutoscalerOperator

open Relation (ReflTransGen)

/-- What the surroundings of a program are free to do beside what a cluster does: the failures that
    may come in the place of the cluster's answers, what the clock may show, and whether the
    operator may have been told to stop. -/
structure Circumstances where
  failures : Error → Prop := fun _ => True
  clock : Instant → Prop := fun _ => True
  stopped : Bool → Prop := fun _ => True

/-- Whether no failure on the way tells that something is missing. -/
def Circumstances.Honest (circumstances : Circumstances) : Prop :=
  ∀ e, circumstances.failures e → e.isNotFound = false

namespace Cluster

/-- What may come of an act on the objects of a cluster: what the cluster makes of it, or a failure
    on the way. Neither failure has an effect. -/
def Yields {α : Type} (failures : Error → Prop) (cluster : Cluster)
    (act : Except Error (α × Cluster)) : Except Error α → Cluster → Prop
  | .ok value, after => act = .ok (value, after)
  | .error e, after => after = cluster ∧ (act = .error e ∨ failures e)

theorem Yields.of_calm {α : Type} {failures : Error → Prop} {cluster after : Cluster}
    {act : Except Error (α × Cluster)} {answer : Except Error α} (calm : ∀ e, ¬failures e)
    (yields : cluster.Yields failures act answer after) :
    answer = act.map (·.1) ∧ after = (act.map (·.2)).toOption.getD cluster := by
  cases answer with
  | ok value =>
    change act = _ at yields
    rw [yields]
    exact ⟨rfl, rfl⟩
  | error e =>
    obtain ⟨same, refused | failed⟩ := yields
    · rw [refused]
      exact ⟨rfl, same⟩
    · exact absurd failed (calm e)

/-- How calls may be answered by a cluster in given circumstances. A sink for events, and whether
    the API can be reached, are always left open. -/
def Answers (circumstances : Circumstances) :
    (c : Call) → Cluster → c.Answer → Cluster → Prop
  | .get kind namespaceName name, cluster, answer, after =>
    cluster.Yields circumstances.failures
      ((cluster.get kind ⟨namespaceName, name⟩).map (·, cluster)) answer after
  | .create kind object, cluster, answer, after =>
    cluster.Yields circumstances.failures (cluster.create kind object) answer after
  | .replace kind object, cluster, answer, after =>
    cluster.Yields circumstances.failures (cluster.replace kind object) answer after
  | .replaceStatus kind object, cluster, answer, after =>
    cluster.Yields circumstances.failures (cluster.replaceStatus kind object) answer after
  | .now, cluster, answer, after => circumstances.clock answer ∧ after = cluster
  | .cancelled, cluster, answer, after => circumstances.stopped answer ∧ after = cluster
  | .ready, cluster, _, after | .publish _, cluster, _, after | .sleep _, cluster, _, after =>
    after = cluster

theorem Yields.imp {α : Type} {failures more : Error → Prop} {cluster after : Cluster}
    {act : Except Error (α × Cluster)} {answer : Except Error α} (all : ∀ e, failures e → more e)
    (yields : cluster.Yields failures act answer after) :
    cluster.Yields more act answer after := by
  cases answer with
  | ok value => exact yields
  | error e => exact yields.imp_right (Or.imp_right (all e))

theorem Answers.imp {circumstances wider : Circumstances} {c : Call} {cluster after : Cluster}
    {answer : c.Answer} (answered : Answers circumstances c cluster answer after)
    (failures : ∀ e, circumstances.failures e → wider.failures e)
    (clock : ∀ time, circumstances.clock time → wider.clock time)
    (stopped : ∀ told, circumstances.stopped told → wider.stopped told) :
    Answers wider c cluster answer after := by
  cases c with
  | get | create | replace | replaceStatus => exact Yields.imp failures answered
  | now => exact answered.imp_left (clock answer)
  | cancelled => exact answered.imp_left (stopped answer)
  | ready | publish | sleep => exact answered

def world (circumstances : Circumstances) (moves : Cluster → Cluster → Prop) : World Cluster :=
  ⟨moves, Answers circumstances⟩

/-- A cluster that nobody else writes to. -/
def closedWorld (circumstances : Circumstances) : World Cluster :=
  world circumstances fun _ _ => False

theorem closedWorld_moves {cluster after : Cluster}
    (moved : ReflTransGen (fun _ _ => False) cluster after) : after = cluster := by
  induction moved with
  | refl => rfl
  | tail _ move => cases move

section

variable {α : Type} {circumstances : Circumstances} {start final : Cluster}
  {trace : List (Exchange Cluster)}

theorem closed_done_iff {value result : α} :
    Program.Runs (closedWorld circumstances) (.done value) start trace result final ↔
      trace = [] ∧ result = value ∧ final = start := by
  rw [Program.runs_done_iff]
  constructor
  · rintro ⟨empty, same, moved⟩
    exact ⟨empty, same, closedWorld_moves moved⟩
  · rintro ⟨empty, same, rfl⟩
    exact ⟨empty, same, .refl⟩

theorem closed_ask_iff {c : Call} {next : c.Answer → Program α} {value : α} :
    Program.Runs (closedWorld circumstances) (Program.ask c >>= next) start trace value final ↔
      ∃ answer after rest, (closedWorld circumstances).answers c start answer after ∧
        Program.Runs (closedWorld circumstances) (next answer) after rest value final ∧
          trace = ⟨c, answer, start, after⟩ :: rest := by
  rw [Program.runs_ask_iff]
  constructor
  · rintro ⟨before, answer, after, rest, moved, answered, run, same⟩
    cases closedWorld_moves moved
    exact ⟨answer, after, rest, answered, run, same⟩
  · rintro ⟨answer, after, rest, answered, run, same⟩
    exact ⟨start, answer, after, rest, .refl, answered, run, same⟩

theorem run_keeps (P : Cluster → Prop) (fine : Cluster → Call → Prop)
    (kept : ∀ {c : Call} {answer : c.Answer} {cluster after : Cluster}, fine cluster c →
      (closedWorld circumstances).answers c cluster answer after → P cluster → P after)
    {program : Program α} {value : α} (holds : P start)
    (run : program.Runs (closedWorld circumstances) start trace value final)
    (all : ∀ exchange ∈ trace, fine exchange.before exchange.call) : P final := by
  induction run with
  | done moved => exact closedWorld_moves moved ▸ holds
  | call moved answered _ ih =>
    obtain rfl := closedWorld_moves moved
    obtain ⟨first, rest⟩ := List.forall_mem_cons.mp all
    exact ih (kept first answered holds) rest

end

section

variable {circumstances : Circumstances} {moves : Cluster → Cluster → Prop} {kind : Kind}
  {namespaceName : Option String} {name : String} {cluster after : Cluster}

theorem answers_got {object : kind.Object}
    (answered : (world circumstances moves).answers (.get kind namespaceName name) cluster
      (.ok object) after) :
    cluster.get kind ⟨namespaceName, name⟩ = .ok object ∧ after = cluster := by
  change Except.map _ _ = Except.ok (object, after) at answered
  cases got : cluster.get kind ⟨namespaceName, name⟩ with
  | error e => rw [got] at answered; cases answered
  | ok found =>
    rw [got] at answered
    cases answered
    exact ⟨rfl, rfl⟩

theorem answers_get_ok {object : kind.Object}
    (answered : (world circumstances moves).answers (.get kind namespaceName name) cluster
      (.ok object) after) :
    cluster.find? kind ⟨namespaceName, name⟩ = some object ∧ after = cluster := by
  obtain ⟨got, same⟩ := answers_got answered
  exact ⟨((get_eq_ok_iff _).mp got).2, same⟩

theorem answers_get_error {e : Error}
    (answered : (world circumstances moves).answers (.get kind namespaceName name) cluster
      (.error e) after) :
    after = cluster ∧
      (circumstances.failures e ∨ cluster.get kind ⟨namespaceName, name⟩ = .error e) := by
  obtain ⟨same, failed | failed⟩ := answered
  · refine ⟨same, .inr ?_⟩
    cases got : cluster.get kind ⟨namespaceName, name⟩ with
    | ok found => rw [got] at failed; cases failed
    | error e' =>
      rw [got] at failed
      cases failed
      rfl
  · exact ⟨same, .inl failed⟩

theorem answers_get_same {answer : Except Error kind.Object}
    (answered : (world circumstances moves).answers (.get kind namespaceName name) cluster answer
      after) : after = cluster := by
  cases answer with
  | ok object => exact (answers_get_ok answered).2
  | error e => exact answered.1

theorem answers_get_of_calm {answer : Except Error kind.Object}
    (calm : ∀ e, ¬circumstances.failures e)
    (answered : (world circumstances moves).answers (.get kind namespaceName name) cluster answer
      after) : after = cluster ∧ answer = cluster.get kind ⟨namespaceName, name⟩ := by
  obtain ⟨outcome, state⟩ := Yields.of_calm calm answered
  cases got : cluster.get kind ⟨namespaceName, name⟩ with
  | ok found | error refusal =>
    rw [got] at outcome state
    exact ⟨state, outcome⟩

theorem answers_get_notFound {e : Error} (honest : circumstances.Honest)
    (answered : (world circumstances moves).answers (.get kind namespaceName name) cluster
      (.error e) after) (absent : e.isNotFound = true) :
    (.get, kind) ∉ cluster.failing ∧ cluster.find? kind ⟨namespaceName, name⟩ = none := by
  obtain ⟨-, failed | refused⟩ := answers_get_error answered
  · cases absent.symm.trans (honest e failed)
  · exact get_notFound refused absent

theorem answers_get_of_stored {e : Error} {object : kind.Object} (honest : circumstances.Honest)
    (stored : cluster.find? kind ⟨namespaceName, name⟩ = some object)
    (answered : (world circumstances moves).answers (.get kind namespaceName name) cluster
      (.error e) after) : ¬e.isNotFound = true := by
  intro absent
  obtain ⟨-, missing⟩ := answers_get_notFound honest answered absent
  cases stored.symm.trans missing

theorem readable_of_answers {answer : Except Error kind.Object} (honest : circumstances.Honest)
    (answered : (world circumstances moves).answers (.get kind namespaceName name) cluster answer
      after) (clear : ∀ e, answer = .error e → e.isNotFound = true) :
    (.get, kind) ∉ cluster.failing := by
  cases answer with
  | error e => exact (answers_get_notFound honest answered (clear e rfl)).1
  | ok object => exact ((get_eq_ok_iff _).mp (answers_got answered).1).1

structure Untroubled (cluster : Cluster) (circumstances : Circumstances) : Prop where
  calm : ∀ e, ¬circumstances.failures e
  working : cluster.failing = []

theorem Untroubled.answers_get_error {e : Error} (untroubled : cluster.Untroubled circumstances)
    (answered : (world circumstances moves).answers (.get kind namespaceName name) cluster
      (.error e) after) :
    after = cluster ∧ cluster.find? kind ⟨namespaceName, name⟩ = none ∧ e = notFound kind name := by
  obtain ⟨same, failed | refused⟩ := Cluster.answers_get_error answered
  · exact absurd failed (untroubled.calm e)
  · rcases get_eq_error refused with ⟨broken, -⟩ | ⟨-, missing⟩
    · simp [untroubled.working] at broken
    · exact ⟨same, missing⟩

end

end Cluster

def Call.Reads : Call → Prop
  | .get .. => True
  | _ => False

/-- Calls that leave no mark: nothing is written and nothing is published. -/
def Call.Silent : Call → Prop
  | .create .. | .replace .. | .replaceStatus .. | .publish .. => False
  | _ => True

theorem Call.Reads.silent {c : Call} (reads : c.Reads) : c.Silent := by
  cases c <;> first | exact True.intro | cases reads

def Call.writes? : Call → Option Kind
  | .create kind _ | .replace kind _ | .replaceStatus kind _ => some kind
  | _ => none

theorem Call.Silent.writes? {c : Call} (silent : c.Silent) : c.writes? = none := by
  cases c <;> first | rfl | cases silent

namespace Exchange

variable {σ α : Type}

def failureOf : Except Error α → Option Error
  | .ok _ => none
  | .error e => some e

def logged? : Exchange σ → Option LoggedCall
  | ⟨.get kind namespaceName name, answer, _, _⟩ =>
    some ⟨.get, kind, namespaceName, some name, failureOf answer⟩
  | ⟨.create kind object, answer, _, _⟩ =>
    some ⟨.create, kind, (kind.metadata object).namespaceName, (kind.metadata object).name,
      failureOf answer⟩
  | ⟨.replace kind object, answer, _, _⟩ =>
    some ⟨.replace, kind, (kind.metadata object).namespaceName, (kind.metadata object).name,
      failureOf answer⟩
  | ⟨.replaceStatus kind object, answer, _, _⟩ =>
    some ⟨.replaceStatus, kind, (kind.metadata object).namespaceName, (kind.metadata object).name,
      failureOf answer⟩
  | _ => none

def published? : Exchange σ → Option Event
  | ⟨.publish event, .ok _, _, _⟩ => some event
  | _ => none

theorem published?_of_silent {exchange : Exchange σ} (silent : exchange.call.Silent) :
    exchange.published? = none := by
  obtain ⟨c, answer, before, after⟩ := exchange
  cases c <;> first | rfl | cases silent

theorem verb_of_unwritten {exchange : Exchange σ} {logged : LoggedCall}
    (unwritten : exchange.call.writes? = none) (entry : exchange.logged? = some logged) :
    logged.verb = .get := by
  obtain ⟨c, answer, before, after⟩ := exchange
  cases c with
  | get => cases entry; rfl
  | create | replace | replaceStatus => cases unwritten
  | ready | publish | now | cancelled | sleep => cases entry

end Exchange

end AutoscalerOperator
