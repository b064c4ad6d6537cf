import AutoscalerOperator.Double.Basic

namespace AutoscalerOperator

namespace Double

/-- A double and the ends of the interval of the numbers that round to it, all as multiples of one
    power of ten. -/
structure Neighbourhood where
  low : Nat
  value : Nat
  high : Nat
  exponent : Int

def neighbourhood (d : Double) : Neighbourhood :=
  -- In quarters of the distance to the next double; below a power of two doubles lie closer.
  let quarter := d.exponent - 2
  let down := if d.mantissa = mantissaLimit / 2 ∧ leastExponent < d.exponent then 1 else 2
  let (unit, exponent) :=
    if 0 ≤ quarter then (1 <<< quarter.toNat, (0 : Int)) else (Nat.pow 5 (-quarter).toNat, quarter)
  ⟨(4 * d.mantissa - down) * unit, 4 * d.mantissa * unit, (4 * d.mantissa + 2) * unit, exponent⟩

def Neighbourhood.Holds (n : Neighbourhood) (even : Bool) (candidate : Nat) : Prop :=
  if even then n.low ≤ candidate ∧ candidate ≤ n.high else n.low < candidate ∧ candidate < n.high

instance (n : Neighbourhood) (even : Bool) (candidate : Nat) :
    Decidable (n.Holds even candidate) := by
  unfold Neighbourhood.Holds; infer_instance

inductive Tie
  | up
  | toEven
  deriving DecidableEq

def Tie.takesAbove (tie : Tie) (below multiple above : Nat) : Bool :=
  match compare above below, tie with
  | .lt, _ | .eq, .up => true
  | .eq, .toEven => multiple % 2 == 1
  | .gt, _ => false

def Neighbourhood.onGrid? (n : Neighbourhood) (tie : Tie) (even : Bool) (width : Nat) :
    Option Nat :=
  let multiple := n.value / width
  let below := multiple * width
  let above := below + width
  if n.Holds even below then
    if n.Holds even above ∧ tie.takesAbove (n.value - below) multiple (above - n.value) then
      some above
    else some below
  else if n.Holds even above then some above
  else none

structure Numeral where
  digits : String
  point : Int

def Numeral.ofMultiple (multiple : Nat) (exponent : Int) : Numeral :=
  let written := toString multiple
  ⟨String.ofList (written.toList.reverse.dropWhile (· == '0')).reverse, written.length + exponent⟩

/-- The shortest numeral that is read as the double: the coarsest decimal grid on which one of the
    value's two neighbours is. Seventeen digits always suffice. -/
def shortest (d : Double) (tie : Tie) : Numeral :=
  let n := d.neighbourhood
  let size := (toString n.value).length
  let found := (List.range 17).findSome? fun k =>
    n.onGrid? tie (d.mantissa % 2 == 0) (Nat.pow 10 (size - (k + 1)))
  Numeral.ofMultiple (found.getD n.value) n.exponent

def signed (d : Double) (magnitude : String) : String :=
  if d.negative then "-" ++ magnitude else magnitude

def zeros (n : Int) : String := "".pushn '0' n.toNat

def Numeral.positional (n : Numeral) : String :=
  let count : Int := n.digits.length
  if n.point ≤ 0 then "0." ++ zeros (-n.point) ++ n.digits
  else if count ≤ n.point then n.digits ++ zeros (n.point - count)
  else
    let digits := n.digits.toList
    String.ofList (digits.take n.point.toNat) ++ "." ++ String.ofList (digits.drop n.point.toNat)

def toText (d : Double) : String :=
  d.signed (if d.mantissa = 0 then "0" else (d.shortest .up).positional)

def signedExponent (n : Int) : String := (if 0 ≤ n then "e+" else "e") ++ toString n

/-- The numeral of a JSON document: a point or an exponent always, positional from 0.00001 up to
    sixteen digits before the point. An exponent has its sign. -/
def toJsonText (d : Double) : String :=
  if d.mantissa = 0 then d.signed "0.0"
  else
    let n := d.shortest .toEven
    let count : Int := n.digits.length
    if -5 < n.point ∧ n.point ≤ 16 then
      d.signed (if count ≤ n.point then n.positional ++ ".0" else n.positional)
    else
      let tail := n.digits.toList.drop 1
      let fraction := if tail.isEmpty then "" else "." ++ String.ofList tail
      d.signed (String.ofList (n.digits.toList.take 1) ++ fraction ++ signedExponent (n.point - 1))

end Double

end AutoscalerOperator
