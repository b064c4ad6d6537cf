import AutoscalerOperator.Program
import Mathlib.Logic.Relation

namespace AutoscalerOperator

open Relation (ReflTransGen)

/-- A call of a program and its answer, with the state right before it and right after it. -/
structure Exchange (σ : Type) where
  call : Call
  answer : call.Answer
  before : σ
  after : σ

/-- Surroundings in which a call may be answered in several ways, and whose state may also move
    between two calls. -/
structure World (σ : Type) where
  moves : σ → σ → Prop
  answers : (c : Call) → σ → c.Answer → σ → Prop

namespace Program

variable {α β σ τ : Type} {world : World σ}

/-- A run of a program in a world from a state to a state, with its exchanges in order and its
    value. -/
inductive Runs (world : World σ) : Program α → σ → List (Exchange σ) → α → σ → Prop
  | done {value : α} {start final : σ} (moved : ReflTransGen world.moves start final) :
    Runs world (.done value) start [] value final
  | call {c : Call} {next : c.Answer → Program α} {start before after final : σ}
    {answer : c.Answer} {trace : List (Exchange σ)} {value : α}
    (moved : ReflTransGen world.moves start before)
    (answered : world.answers c before answer after)
    (rest : Runs world (next answer) after trace value final) :
    Runs world (.call c next) start (⟨c, answer, before, after⟩ :: trace) value final

theorem runs_done_iff {value result : α} {start final : σ} {trace : List (Exchange σ)} :
    Runs world (.done value) start trace result final ↔
      trace = [] ∧ result = value ∧ ReflTransGen world.moves start final := by
  constructor
  · rintro ⟨moved⟩
    exact ⟨rfl, rfl, moved⟩
  · rintro ⟨rfl, rfl, moved⟩
    exact .done moved

theorem runs_call_iff {c : Call} {next : c.Answer → Program α} {start final : σ}
    {trace : List (Exchange σ)} {value : α} :
    Runs world (.call c next) start trace value final ↔
      ∃ before answer after rest, ReflTransGen world.moves start before ∧
        world.answers c before answer after ∧ Runs world (next answer) after rest value final ∧
          trace = ⟨c, answer, before, after⟩ :: rest := by
  constructor
  · intro run
    cases run with
    | call moved answered rest => exact ⟨_, _, _, _, moved, answered, rest, rfl⟩
  · rintro ⟨before, answer, after, rest, moved, answered, run, rfl⟩
    exact .call moved answered run

theorem runs_ask_iff {c : Call} {next : c.Answer → Program α} {start final : σ}
    {trace : List (Exchange σ)} {value : α} :
    Runs world (ask c >>= next) start trace value final ↔
      ∃ before answer after rest, ReflTransGen world.moves start before ∧
        world.answers c before answer after ∧ Runs world (next answer) after rest value final ∧
          trace = ⟨c, answer, before, after⟩ :: rest :=
  runs_call_iff

theorem Runs.after {program : Program α} {early start final : σ} {trace : List (Exchange σ)}
    {value : α} (run : Runs world program start trace value final)
    (moved : ReflTransGen world.moves early start) :
    Runs world program early trace value final := by
  cases run with
  | done further => exact .done (moved.trans further)
  | call further answered rest => exact .call (moved.trans further) answered rest

theorem Runs.before {program : Program α} {start late final : σ} {trace : List (Exchange σ)}
    {value : α} (run : Runs world program start trace value late)
    (moved : ReflTransGen world.moves late final) :
    Runs world program start trace value final := by
  induction run with
  | done further => exact .done (further.trans moved)
  | call further answered _ ih => exact .call further answered (ih moved)

theorem Runs.answered {program : Program α} {start final : σ} {trace : List (Exchange σ)}
    {value : α} (run : Runs world program start trace value final) :
    ∀ exchange ∈ trace,
      world.answers exchange.call exchange.before exchange.answer exchange.after := by
  induction run with
  | done moved => intro exchange member; cases member
  | call moved answered _ ih =>
    intro exchange member
    rcases List.mem_cons.mp member with rfl | member
    · exact answered
    · exact ih exchange member

theorem runs_bind_iff {program : Program α} {next : α → Program β} {start final : σ}
    {trace : List (Exchange σ)} {value : β} :
    Runs world (program >>= next) start trace value final ↔
      ∃ first middle between rest, Runs world program start first middle between ∧
        Runs world (next middle) between rest value final ∧ trace = first ++ rest := by
  constructor
  · intro run
    induction program generalizing start trace with
    | done middle => exact ⟨[], middle, start, trace, .done .refl, run, rfl⟩
    | call c tail ih =>
      obtain ⟨before, answer, after, rest, moved, answered, later, rfl⟩ := runs_call_iff.mp run
      obtain ⟨first, middle, between, last, head, back, rfl⟩ := ih answer later
      exact ⟨_, middle, between, last, .call moved answered head, back, rfl⟩
  · rintro ⟨first, middle, between, rest, head, tail, rfl⟩
    induction head with
    | done moved => exact tail.after moved
    | call moved answered _ ih => exact .call moved answered (ih tail)

def exchanges (handler : Handler τ) (view : τ → σ) : Program α → τ → List (Exchange σ)
  | .done _, _ => []
  | .call c next, state =>
    let (answer, after) := handler c state
    ⟨c, answer, view state, view after⟩ :: (next answer).exchanges handler view after

section

variable {handler : Handler τ} {view : τ → σ}

/-- What a handler does is a run in every world that allows its answers. -/
theorem runs_exchanges (invariant : τ → Prop)
    (allowed : ∀ c state, invariant state → invariant (handler c state).2 ∧
      world.answers c (view state) (handler c state).1 (view (handler c state).2))
    (program : Program α) (state : τ) (start : invariant state) :
    Runs world program (view state) (program.exchanges handler view state)
        (program.run handler state).1 (view (program.run handler state).2) ∧
      invariant (program.run handler state).2 := by
  induction program generalizing state with
  | done value => exact ⟨.done .refl, start⟩
  | call c next ih =>
    obtain ⟨kept, answered⟩ := allowed c state start
    obtain ⟨run, last⟩ := ih (handler c state).1 (handler c state).2 kept
    exact ⟨.call .refl answered run, last⟩

theorem record_run {ρ : Type} {record : τ → List ρ} {entries : Exchange σ → List ρ}
    (added : ∀ c state, record (handler c state).2 = record state ++
      entries ⟨c, (handler c state).1, view state, view (handler c state).2⟩)
    (program : Program α) (state : τ) :
    record (program.run handler state).2 =
      record state ++ (program.exchanges handler view state).flatMap entries := by
  induction program generalizing state with
  | done value => simp [exchanges]
  | call c next ih => simp [exchanges, ih, added]

end

end Program

end AutoscalerOperator
