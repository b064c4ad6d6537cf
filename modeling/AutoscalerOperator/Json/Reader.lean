import AutoscalerOperator.Json.Nested

namespace AutoscalerOperator.Json

structure TextProblem where
  fault : TextFault
  place : TextPlace
  deriving DecidableEq

def TextProblem.message (p : TextProblem) : String := p.fault.message ++ p.place.note

def Halt.place (halt : Halt) (text : String) : TextPlace :=
  let bytes := text.toUTF8.toList
  .behind (bytes.take (bytes.length - Reading.byteCount halt.spot.rest + halt.spot.ahead))

namespace Reading

variable {α : Type}

def whole (reading : Reading α) : Reading α := do
  let value ← reading
  match ← ahead? with
  | none => return value
  | some _ => failNext .trailing

def ofText (reading : Reading α) (text : String) : Except TextProblem α :=
  match reading.whole text.toList with
  | .ok (value, _) => .ok value
  | .error halt => .error ⟨halt.fault, halt.place text⟩

def document : TextReader Json := fun depth => Json.arranged <$> plainDocument depth

end Reading

def ofText? (depth : Nat) (text : String) : Option Json :=
  ((Reading.document depth).ofText text).toOption

end AutoscalerOperator.Json
