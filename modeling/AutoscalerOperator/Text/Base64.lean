namespace AutoscalerOperator.Text

inductive Base64Error
  | symbol (byte : UInt8) (offset : Nat)
  /-- The last symbol carries bits beyond a whole byte. -/
  | lastSymbol (byte : UInt8) (offset : Nat)
  | length (count : Nat)
  | padding
  deriving DecidableEq

def Base64Error.message : Base64Error → String
  | .symbol byte offset =>
    "Invalid symbol " ++ toString byte.toNat ++ ", offset " ++ toString offset ++ "."
  | .lastSymbol byte offset =>
    "Invalid last symbol " ++ toString byte.toNat ++ ", offset " ++ toString offset ++ "."
  | .length count => "Invalid input length: " ++ toString count
  | .padding => "Invalid padding"

namespace Base64

def value? (byte : UInt8) : Option Nat :=
  let c := Char.ofUInt8 byte
  if 'A' ≤ c ∧ c ≤ 'Z' then some (c.toNat - 'A'.toNat)
  else if 'a' ≤ c ∧ c ≤ 'z' then some (c.toNat - 'a'.toNat + 26)
  else if c.isDigit then some (c.toNat - '0'.toNat + 52)
  else if c = '+' then some 62
  else if c = '/' then some 63
  else none

def fill : UInt8 := 61

def checkSymbols (offset : Nat) : List UInt8 → Except Base64Error Unit
  | [] => .ok ()
  | byte :: rest =>
    if (value? byte).isSome then checkSymbols (offset + 1) rest else .error (.symbol byte offset)

def checkLast (offset : Nat) (symbols : List UInt8) : Except Base64Error Unit :=
  match symbols.getLast? with
  | none => .ok ()
  | some byte =>
    let spare := match symbols.length with
      | 2 => 16
      | 3 => 4
      | _ => 1
    if (value? byte).any (· % spare == 0) then .ok ()
    else .error (.lastSymbol byte (offset + symbols.length - 1))

def checkGroup (offset : Nat) (group : List UInt8) : Except Base64Error Unit := do
  let symbols := group.takeWhile (· ≠ fill)
  let rest := group.dropWhile (· ≠ fill)
  checkSymbols offset symbols
  if !rest.isEmpty ∧ (symbols.length < 2 ∨ rest.any (· ≠ fill)) then
    throw (.symbol fill (offset + symbols.length))
  if symbols.length = 1 then throw (.length (offset + 1))
  if group.length % 4 ≠ 0 then throw .padding
  checkLast offset symbols

/-- Groups of four symbols, only the last of them filled up. One symbol too many is told before
    anything else if it is none. -/
def check (bytes : List UInt8) : Except Base64Error Unit := do
  let count := bytes.length
  if count % 4 = 1 then
    if let some last := bytes.getLast? then
      if last ≠ fill ∧ (value? last).isNone then throw (.symbol last (count - 1))
  let whole := (count - 1) / 4 * 4
  checkSymbols 0 (bytes.take whole)
  checkGroup whole (bytes.drop whole)

end Base64

end AutoscalerOperator.Text
