import AutoscalerOperator.Cluster.Basic

namespace AutoscalerOperator

open Kubernetes

structure Event where
  regarding : ObjectReference
  isWarning : Bool
  reason : String
  note : String
  deriving DecidableEq, Inhabited

inductive Call
  | get (kind : Kind) (namespaceName : Option String) (name : String)
  | create (kind : Kind) (object : kind.Object)
  | replace (kind : Kind) (object : kind.Object)
  | replaceStatus (kind : Kind) (object : kind.Object)
  | ready
  | publish (event : Event)
  | now
  | cancelled
  | sleep (milliseconds : Nat)

namespace Call

abbrev Answer : Call → Type
  | .get kind _ _ | .create kind _ | .replace kind _ | .replaceStatus kind _ =>
    Except Error kind.Object
  | .ready | .cancelled => Bool
  | .publish _ => Except Error Unit
  | .now => Instant
  | .sleep _ => Unit

end Call

/-- A program that makes calls and goes on with their answers. -/
inductive Program (α : Type) where
  | done (value : α)
  | call (c : Call) (next : c.Answer → Program α)

namespace Program

variable {α β σ : Type}

protected def bind : Program α → (α → Program β) → Program β
  | .done value, rest => rest value
  | .call c next, rest => .call c fun answer => (next answer).bind rest

instance : Monad Program where
  pure := .done
  bind := Program.bind

@[simp] theorem pure_eq (value : α) : (pure value : Program α) = .done value := rfl

@[simp] theorem done_bind (value : α) (rest : α → Program β) :
    (Program.done value >>= rest) = rest value := rfl

@[simp] theorem call_bind (c : Call) (next : c.Answer → Program α) (rest : α → Program β) :
    (Program.call c next >>= rest) = .call c fun answer => next answer >>= rest := rfl

def ask (c : Call) : Program c.Answer := .call c .done

end Program

abbrev Handler (σ : Type) := (c : Call) → σ → c.Answer × σ

namespace Program

variable {α β σ : Type}

def run (handler : Handler σ) : Program α → σ → α × σ
  | .done value, state => (value, state)
  | .call c next, state =>
    let (answer, state) := handler c state
    (next answer).run handler state

@[simp] theorem run_done (handler : Handler σ) (value : α) (state : σ) :
    (Program.done value).run handler state = (value, state) := rfl

@[simp] theorem run_call (handler : Handler σ) (c : Call) (next : c.Answer → Program α)
    (state : σ) :
    (Program.call c next).run handler state =
      (next (handler c state).1).run handler (handler c state).2 := rfl

theorem run_bind (handler : Handler σ) (program : Program α) (rest : α → Program β) (state : σ) :
    (program >>= rest).run handler state =
      (rest (program.run handler state).1).run handler (program.run handler state).2 := by
  induction program generalizing state with
  | done value => rfl
  | call c next ih => exact ih (handler c state).1 (handler c state).2

end Program

end AutoscalerOperator
