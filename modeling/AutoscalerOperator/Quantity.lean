import AutoscalerOperator.Json.Coding
import AutoscalerOperator.Text.Blank
import AutoscalerOperator.Text.Numeral

namespace AutoscalerOperator

structure Quantity where
  text : String
  deriving DecidableEq, Inhabited

instance : ToJson Quantity := ⟨fun q => .str q.text⟩

instance : OfJson Quantity := ⟨Quantity.mk <$> OfJson.decoder⟩

namespace Quantity

structure Numeral where
  negative : Bool
  whole : List Char
  fraction : List Char
  deriving DecidableEq

/-- What a suffix multiplies by: `10 ^ ten * 2 ^ two`. -/
structure Scale where
  ten : Int
  two : Nat
  deriving DecidableEq

def isNumeralChar (c : Char) : Bool := c.isDigit || c == '.' || c == '+' || c == '-'

def splitSign : List Char → Bool × List Char
  | '-' :: rest => (true, rest)
  | '+' :: rest => (false, rest)
  | rest => (false, rest)

def splitPoint (text : List Char) : List Char × List Char :=
  (text.takeWhile (· != '.'), (text.dropWhile (· != '.')).drop 1)

def Numeral.ofText? (text : List Char) : Option Numeral :=
  let (negative, digits) := splitSign text
  let (whole, fraction) := splitPoint digits
  if whole.isEmpty && fraction.isEmpty then none
  else if !(whole ++ fraction).all Char.isDigit then none
  else some ⟨negative, whole, fraction⟩

def Scale.ofSuffix? : List Char → Option Scale
  | ['K', 'i'] => some ⟨0, 10⟩
  | ['M', 'i'] => some ⟨0, 20⟩
  | ['G', 'i'] => some ⟨0, 30⟩
  | ['T', 'i'] => some ⟨0, 40⟩
  | ['P', 'i'] => some ⟨0, 50⟩
  | ['E', 'i'] => some ⟨0, 60⟩
  | ['n'] => some ⟨-9, 0⟩
  | ['u'] => some ⟨-6, 0⟩
  | ['m'] => some ⟨-3, 0⟩
  | ['k'] => some ⟨3, 0⟩
  | ['M'] => some ⟨6, 0⟩
  | ['G'] => some ⟨9, 0⟩
  | ['T'] => some ⟨12, 0⟩
  | ['P'] => some ⟨15, 0⟩
  | ['E'] => some ⟨18, 0⟩
  | [] => some ⟨0, 0⟩
  | 'e' :: exponent | 'E' :: exponent => (Text.int32? exponent).map fun n => ⟨n.toInt, 0⟩
  | _ => none

/-- Magnitudes are held in 127 bits. -/
def limit : Nat := 1 <<< 127

def fitting? (n : Nat) : Option Nat := if n < limit then some n else none

def powerOfTen? (exponent : Nat) : Option Nat :=
  if exponent ≤ 38 then some (Nat.pow 10 exponent) else none

/-- The magnitude in units of `10 ^ -9`, rounded up, none if a number on the way does not fit. -/
def magnitude? (numeral : Numeral) (scale : Scale) : Option Nat := do
  let exponent := scale.ten + 9 - numeral.fraction.length
  let significand ← fitting? (Text.numeralValue (numeral.whole ++ numeral.fraction))
  let amount ← fitting? (significand <<< scale.two)
  if 0 ≤ exponent then
    fitting? (amount * (← powerOfTen? exponent.toNat))
  else
    let divisor ← powerOfTen? (-exponent).toNat
    return (amount + divisor - 1) / divisor

def nanosOf? (text : List Char) : Option Int := do
  let text := Text.trim text
  let numeral ← Numeral.ofText? (text.takeWhile isNumeralChar)
  let scale ← Scale.ofSuffix? (text.dropWhile isNumeralChar)
  let magnitude ← magnitude? numeral scale
  return if numeral.negative then -(magnitude : Int) else magnitude

/-- The amount in units of `10 ^ -9`, rounded up in magnitude. None if the text is no quantity, or
    one too great. -/
def nanos? (quantity : Quantity) : Option Int := nanosOf? quantity.text.toList

/-- The amount in units of `10 ^ -9`, as a quantity. A text without an amount stays as it is. -/
def canonical (quantity : Quantity) : Quantity :=
  match quantity.nanos? with
  | some nanos => ⟨toString nanos ++ "n"⟩
  | none => quantity

end Quantity

end AutoscalerOperator
