import AutoscalerOperator.Cluster.Basic

namespace AutoscalerOperator

inductive TrapEffect
  | fail (error : Error)
  | cancel (token : Nat)
  deriving DecidableEq

/-- Waits for calls of a verb on a kind, lets some pass and catches some after them. -/
structure Trap where
  verb : Verb
  kind : Kind
  skip : Nat := 0
  times : Nat := 1
  effect : TrapEffect
  deriving DecidableEq

namespace Trap

def look (trap : Trap) (verb : Verb) (kind : Kind) : Trap × Option TrapEffect :=
  if (trap.verb, trap.kind) ≠ (verb, kind) then (trap, none)
  else if 0 < trap.skip then ({ trap with skip := trap.skip - 1 }, none)
  else if 0 < trap.times then ({ trap with times := trap.times - 1 }, some trap.effect)
  else (trap, none)

/-- What the traps make of a call: they look at it one after the other, up to the first that lets it
    fail. -/
structure Sprung where
  traps : List Trap
  failure : Option Error := none
  cancelled : List Nat := []

def spring (verb : Verb) (kind : Kind) : List Trap → Sprung
  | [] => { traps := [] }
  | trap :: rest =>
    match trap.look verb kind with
    | (trap, some (.fail error)) => { traps := trap :: rest, failure := some error }
    | (trap, some (.cancel token)) =>
      let sprung := spring verb kind rest
      { sprung with traps := trap :: sprung.traps, cancelled := token :: sprung.cancelled }
    | (trap, none) =>
      let sprung := spring verb kind rest
      { sprung with traps := trap :: sprung.traps }

end Trap

end AutoscalerOperator
