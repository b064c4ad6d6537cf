import AutoscalerOperator.Text.Numeral

namespace AutoscalerOperator

structure TextPlace where
  line : Nat
  column : Nat
  deriving DecidableEq

namespace TextPlace

def lineBreak : UInt8 := 10

def behind (bytes : List UInt8) : TextPlace where
  line := 1 + bytes.count lineBreak
  column := (bytes.reverse.takeWhile (· ≠ lineBreak)).length

/-- How a place is told at the end of a message. There is no line 0: that is no place. -/
def note (place : TextPlace) : String :=
  if place.line = 0 then ""
  else " at line " ++ toString place.line ++ " column " ++ toString place.column

def splitNumber? (words : String) (text : List Char) : Option (List Char × Nat) := do
  let digits := (text.reverse.takeWhile Char.isDigit).reverse
  let before := text.take (text.length - digits.length)
  let kept := before.length - words.length
  let number := Text.numeralValue digits
  if digits.isEmpty ∨ before.drop kept ≠ words.toList ∨ UInt64.size ≤ number then none
  else some (before.take kept, number)

def split? (message : List Char) : Option (List Char × TextPlace) := do
  let (message, column) ← splitNumber? " column " message
  let (message, line) ← splitNumber? " at line " message
  return (message, ⟨line, column⟩)

end TextPlace

end AutoscalerOperator
