import AutoscalerOperator.Json.DecodeError
import AutoscalerOperator.Json.Flaw

namespace AutoscalerOperator.Json

inductive TextFault
  | flaw (flaw : Flaw)
  | misfit (error : DecodeError)
  deriving DecidableEq

def TextFault.message : TextFault → String
  | .flaw f => f.message
  | .misfit e => e.message

structure Spot where
  rest : List Char
  ahead : Nat := 0

structure Halt where
  fault : TextFault
  spot : Spot
  /-- Whether the fault shows at the spot. If not, it shows where the array or object ends that is
      being read there. -/
  settled : Bool := true

/-- The fault of an array or object, of which a part was read. The place that counts as its end is
    found from what is left of the text. -/
def Halt.around (halt : Halt) (leave : List Char → List Char) : Halt :=
  if halt.settled then halt else { halt with spot := ⟨leave halt.spot.rest, 0⟩, settled := true }

abbrev Reading := StateT (List Char) (Except Halt)

abbrev TextReader (α : Type) := (depth : Nat) → Reading α

namespace Reading

variable {α : Type}

def fail (flaw : Flaw) : Reading α := fun text => .error { fault := .flaw flaw, spot := ⟨text, 0⟩ }

def failNext (flaw : Flaw) : Reading α := fun text =>
  .error { fault := .flaw flaw, spot := ⟨text, 1⟩ }

def ofDecoded : Decoded α → Reading α
  | .ok value => return value
  | .error error => fun text =>
    .error { fault := .misfit error, spot := ⟨text, 0⟩, settled := false }

def refuse (error : DecodeError) : Reading α := ofDecoded (.error error)

/-- Faults of what is read here show where they were found. -/
def settled (reading : Reading α) : Reading α := fun text =>
  (reading text).mapError (·.around id)

def isBlank (c : Char) : Bool := c == ' ' || c == '\n' || c == '\r' || c == '\t'

def blanks : Reading Unit := modify (·.dropWhile isBlank)

def next? : Reading (Option Char) := return (← get).head?

def pass : Reading Unit := modify (·.drop 1)

def ahead? : Reading (Option Char) := do
  blanks
  next?

end Reading

end AutoscalerOperator.Json
