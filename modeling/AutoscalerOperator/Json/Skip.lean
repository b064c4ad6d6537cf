import AutoscalerOperator.Json.Lexeme

namespace AutoscalerOperator.Json

/-! Values that nobody asks for are passed over. Only their form counts: numbers may be of any size,
escapes need not make characters, and nesting may be of any depth. -/

inductive Nest
  | array
  | object
  deriving DecidableEq

namespace Nest

def closing : Nest → Char
  | .array => ']'
  | .object => '\x7d'

def ends : Nest → Flaw
  | .array => .listEnds
  | .object => .objectEnds

def noComma : Nest → Flaw
  | .array => .noListComma
  | .object => .noObjectComma

def ofOpening? : Char → Option Nest
  | '[' => some .array
  | '\x7b' => some .object
  | _ => none

end Nest

namespace Reading

def colon : Reading Unit := do
  match ← ahead? with
  | none => failNext .objectEnds
  | some ':' => pass
  | some _ => failNext .noColon

def skipChars : (fuel : List Char) → Reading Unit
  | [] => fail .textEnds
  | _ :: fuel => do
    match ← next? with
    | none => fail .textEnds
    | some '"' => pass
    | some '\\' => do
      pass
      match ← next? with
      | none => fail .textEnds
      | some 'u' => do
        pass
        discard hexNumber
      | some letter => if (escapedChar? letter).isSome then pass else failNext .badEscape
      skipChars fuel
    | some c =>
      if c.toNat < 0x20 then fail .controlInText
      else do
        pass
        skipChars fuel

def skipText : Reading Unit := do skipChars (← get)

def skipSimple : Reading Unit := do
  match ← ahead? with
  | some '"' => do
    pass
    skipText
  | some c => if c = '-' ∨ c.isDigit then discard (numberText .badNumber) else discard simple
  | none => discard simple

def skipKey : Reading Unit := do
  match ← ahead? with
  | none => failNext .objectEnds
  | some '"' => do
    pass
    skipText
    colon
  | some _ => failNext .noKey

mutual

/-- A value, and what follows it in the arrays and objects around it, the innermost first. Each step
    passes one character of `fuel` or more. -/
def skipWithin : (fuel : List Char) → List Nest → Reading Unit
  | [], _ => failNext .valueEnds
  | _ :: fuel, nests => do
    match (← ahead?).bind Nest.ofOpening? with
    | none => do
      skipSimple
      skipOut fuel nests
    | some nest => do
      pass
      match ← ahead? with
      | none => failNext nest.ends
      | some c =>
        if c = nest.closing then do
          pass
          skipOut fuel nests
        else do
          if nest = .object then skipKey
          skipWithin fuel (nest :: nests)

def skipOut : (fuel : List Char) → List Nest → Reading Unit
  | _, [] => return ()
  | [], nest :: _ => failNext nest.ends
  | _ :: fuel, nest :: nests => do
    match ← ahead? with
    | none => failNext nest.ends
    | some ',' => do
      pass
      if nest = .object then skipKey
      skipWithin fuel (nest :: nests)
    | some c =>
      if c = nest.closing then do
        pass
        skipOut fuel nests
      else failNext nest.noComma

end

def skip : Reading Unit := do skipWithin (← get) []

end Reading

end AutoscalerOperator.Json
