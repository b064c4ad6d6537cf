namespace AutoscalerOperator

/-- A finite binary floating point number of 64 bits, `mantissa * 2 ^ exponent` with a sign. The
    mantissa has 53 bits, or fewer if the exponent is the least one. -/
structure Double where
  negative : Bool
  mantissa : Nat
  exponent : Int
  deriving DecidableEq

namespace Double

def mantissaLimit : Nat := 1 <<< 53

def leastExponent : Int := -1074

def greatestExponent : Int := 971

def zero (negative : Bool) : Double := ⟨negative, 0, leastExponent⟩

instance : Inhabited Double := ⟨zero false⟩

/-- The sign of a zero dropped. Two numbers are equal if they are the same after this. -/
def plainZero (d : Double) : Double :=
  if d.mantissa = 0 then { d with negative := false } else d

@[simp] theorem plainZero_plainZero (d : Double) : d.plainZero.plainZero = d.plainZero := by
  unfold plainZero
  split <;> simp [*]

def roundedQuotient (num den : Nat) : Nat :=
  let below := num / den
  let rest := num % den
  if 2 * rest < den ∨ (2 * rest = den ∧ below % 2 = 0) then below else below + 1

def scaledDown (num den : Nat) (exponent : Int) : Nat × Nat :=
  if 0 ≤ exponent then (num, den <<< exponent.toNat) else (num <<< (-exponent).toNat, den)

def ofRatio? (negative : Bool) (num den : Nat) : Option Double :=
  if num = 0 then some (zero negative)
  else
    -- The quotient lies between `2 ^ (guess + 52)` and `2 ^ (guess + 54)`.
    let guess := max ((num.log2 : Int) - den.log2 - 53) leastExponent
    let (n, d) := scaledDown num den guess
    let exponent := if n / d < mantissaLimit then guess else guess + 1
    let (n, d) := scaledDown num den exponent
    let mantissa := roundedQuotient n d
    let (mantissa, exponent) :=
      if mantissa = mantissaLimit then (mantissaLimit / 2, exponent + 1) else (mantissa, exponent)
    if exponent ≤ greatestExponent then some ⟨negative, mantissa, exponent⟩ else none

def ratio (d : Double) : Nat × Nat := scaledDown d.mantissa 1 (-d.exponent)

def times? (a b : Double) : Option Double :=
  ofRatio? (a.negative ^^ b.negative) (a.ratio.1 * b.ratio.1) (a.ratio.2 * b.ratio.2)

def over? (a b : Double) : Option Double :=
  ofRatio? (a.negative ^^ b.negative) (a.ratio.1 * b.ratio.2) (a.ratio.2 * b.ratio.1)

def greatestPowerOfTen : Nat := 308

def powerOfTen? (exponent : Nat) : Option Double := ofRatio? false (Nat.pow 10 exponent) 1

/-- About `significand * 10 ^ exponent`: the significand is rounded, and so is the power of ten and
    what comes of scaling by it. None beyond the greatest double. -/
def scaled? (negative : Bool) (significand : Nat) (exponent : Int) : Option Double :=
  if significand = 0 then some (zero negative)
  else if greatestPowerOfTen < exponent ∨ exponent < -2 * greatestPowerOfTen then
    if 0 < exponent then none else some (zero negative)
  else do
    let d ← ofRatio? negative significand 1
    if 0 ≤ exponent then d.times? (← powerOfTen? exponent.toNat)
    else if -greatestPowerOfTen ≤ exponent then d.over? (← powerOfTen? (-exponent).toNat)
    else
      -- A power of ten beyond the greatest double is divided by in two steps.
      let d ← d.over? (← powerOfTen? greatestPowerOfTen)
      d.over? (← powerOfTen? (-exponent - greatestPowerOfTen).toNat)

def ofInt? (n : Int) : Option Double := ofRatio? (decide (n < 0)) n.natAbs 1

end Double

end AutoscalerOperator
