import AutoscalerOperator.Proofs.Execution.Answers
import Mathlib.Data.List.Forall2

namespace AutoscalerOperator

inductive Exchange.SameButSink {σ : Type} : Exchange σ → Exchange σ → Prop
  | same (exchange : Exchange σ) : SameButSink exchange exchange
  | publish (event : Event) (answer other : Except Error Unit) (before after : σ) :
    SameButSink ⟨.publish event, answer, before, after⟩ ⟨.publish event, other, before, after⟩

def Call.Publishes : Call → Prop
  | .publish _ => True
  | _ => False

namespace Program

variable {α β : Type}

/-- Whether a program goes on in one way, whatever the sink makes of its events. -/
def IgnoresSink : Program α → Prop
  | .done _ => True
  | .call c next => (c.Publishes → ∀ answer other, next answer = next other) ∧
      ∀ answer, (next answer).IgnoresSink

theorem ignoresSink_ask {c : Call} (silent : ¬c.Publishes) : (ask c).IgnoresSink :=
  ⟨fun publishes => absurd publishes silent, fun _ => trivial⟩

theorem ignoresSink_bind {program : Program α} {rest : α → Program β}
    (first : program.IgnoresSink) (later : ∀ value, (rest value).IgnoresSink) :
    (program >>= rest).IgnoresSink := by
  induction program with
  | done value => exact later value
  | call c next ih =>
    obtain ⟨alike, ignores⟩ := first
    refine ⟨fun publishes answer other => ?_, fun answer => ih answer (ignores answer)⟩
    exact congrArg (· >>= rest) (alike publishes answer other)

theorem Runs.with_sink {circumstances : Circumstances} {moves : Cluster → Cluster → Prop}
    {program : Program α} {start final : Cluster} {trace other : List (Exchange Cluster)} {value : α}
    (run : program.Runs (Cluster.world circumstances moves) start trace value final)
    (ignores : program.IgnoresSink) (same : List.Forall₂ Exchange.SameButSink trace other) :
    program.Runs (Cluster.world circumstances moves) start other value final := by
  induction run generalizing other with
  | done moved =>
    cases same
    exact .done moved
  | call moved answered _ ih =>
    obtain ⟨alike, ignores⟩ := ignores
    cases same with
    | cons head tail =>
      have rest := ih (ignores _) tail
      cases head with
      | same => exact .call moved answered rest
      | publish event answer differing =>
        rw [alike trivial answer differing] at rest
        exact .call moved answered rest

end Program

end AutoscalerOperator
