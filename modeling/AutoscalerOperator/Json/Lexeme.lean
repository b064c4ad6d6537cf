import AutoscalerOperator.Json.Reading

namespace AutoscalerOperator.Json

/-! Words, texts and numbers at the front of a text. -/

namespace Reading

def word : List Char → Reading Unit
  | [] => return ()
  | letter :: letters => do
    match ← next? with
    | none => fail .valueEnds
    | some c => if c = letter then pass; word letters else failNext .noWord

def hexDigit? (c : Char) : Option Nat :=
  if c.isDigit then some (c.toNat - '0'.toNat)
  else if 'a' ≤ c ∧ c ≤ 'f' then some (c.toNat - 'a'.toNat + 10)
  else if 'A' ≤ c ∧ c ≤ 'F' then some (c.toNat - 'A'.toNat + 10)
  else none

def hexValue? (digits : List Char) : Option Nat :=
  digits.foldlM (fun n c => (hexDigit? c).map (16 * n + ·)) 0

def byteCount (text : List Char) : Nat := (String.ofList text).utf8ByteSize

/-- The number of four hexadecimal digits. Four bytes that are none are passed over before they are
    refused. -/
def hexNumber : Reading Nat := do
  let text ← get
  match text with
  | a :: b :: c :: d :: rest =>
    match hexValue? [a, b, c, d] with
    | some n =>
      set rest
      return n
    | none => throw { fault := .flaw .badEscape, spot := ⟨text, 4⟩ }
  | _ =>
    if byteCount text < 4 then
      set ([] : List Char)
      fail .textEnds
    else throw { fault := .flaw .badEscape, spot := ⟨text, 4⟩ }

def escapedChar? : Char → Option Char
  | '"' => some '"'
  | '\\' => some '\\'
  | '/' => some '/'
  | 'b' => some (Char.ofNat 8)
  | 'f' => some (Char.ofNat 12)
  | 'n' => some '\n'
  | 'r' => some '\r'
  | 't' => some '\t'
  | _ => none

def isHighHalf (n : Nat) : Bool := 0xD800 ≤ n && n < 0xDC00

def isLowHalf (n : Nat) : Bool := 0xDC00 ≤ n && n < 0xE000

def joined (high low : Nat) : Char :=
  Char.ofNat (0x10000 + (high - 0xD800) * 0x400 + (low - 0xDC00))

def betweenHalves (c : Char) : Reading Unit := do
  match ← next? with
  | none => fail .textEnds
  | some found => if found = c then pass else failNext .missingHalf

def numberedChar : Reading Char := do
  let n ← hexNumber
  if isLowHalf n then fail .unpairedHalf
  if isHighHalf n then
    betweenHalves '\\'
    betweenHalves 'u'
    let low ← hexNumber
    if isLowHalf low then return joined n low
    fail .unpairedHalf
  return Char.ofNat n

def escape : Reading Char := do
  match ← next? with
  | none => fail .textEnds
  | some 'u' => do
    pass
    numberedChar
  | some letter =>
    match escapedChar? letter with
    | some c => do
      pass
      return c
    | none => failNext .badEscape

/-- The characters up to the closing quote, which is passed, after those that were read before, the
    last of them first. Each step reads one character of `fuel` or more. -/
def charsAfter (before : List Char) : (fuel : List Char) → Reading (List Char)
  | [] => fail .textEnds
  | _ :: fuel => do
    match ← next? with
    | none => fail .textEnds
    | some '"' => do
      pass
      return before.reverse
    | some '\\' => do
      pass
      let c ← escape
      charsAfter (c :: before) fuel
    | some c =>
      if c.toNat < 0x20 then failNext .controlInText
      else do
        pass
        charsAfter (c :: before) fuel

def text : Reading String := do
  return String.ofList (← charsAfter [] (← get))

structure NumberText where
  negative : Bool
  whole : List Char
  places : List Char
  scale : Option (Bool × List Char)

def digits : Reading (List Char) := do
  let found := (← get).takeWhile Char.isDigit
  modify (·.drop found.length)
  return found

def someDigits (ends : Flaw) : Reading (List Char) := do
  match ← next? with
  | none => fail ends
  | some c => if c.isDigit then digits else failNext .badNumber

def wholeDigits (ends : Flaw) : Reading (List Char) := do
  if (← next?) = some '0' then
    pass
    if (← next?).any Char.isDigit then failNext .badNumber
    return ['0']
  someDigits ends

def sign : Reading Bool := do
  match ← next? with
  | some '-' => do
    pass
    return true
  | some '+' => do
    pass
    return false
  | _ => return false

def numberText (ends : Flaw) : Reading NumberText := do
  let negative := (← next?) = some '-'
  if negative then pass
  let whole ← wholeDigits ends
  let places ← if (← next?) = some '.' then do pass; someDigits ends else pure []
  let scale ←
    if (← next?).any fun c => c = 'e' || c = 'E' then do
      pass
      let down ← sign
      pure (some (down, ← someDigits ends))
    else pure none
  return { negative, whole, places, scale }

end Reading

namespace Reading.NumberText

def significand (start : Nat) : List Char → Nat × List Char
  | [] => (start, [])
  | c :: rest =>
    let next := 10 * start + (c.toNat - '0'.toNat)
    if next < UInt64.size then significand next rest else (start, c :: rest)

/-- A floating point number. Digits that no longer fit count as zeros before the point and for
    nothing behind it. -/
def double? (n : NumberText) : Option Double :=
  let (start, dropped) := significand 0 n.whole
  let (significand, unused) := significand start n.places
  let used : Int := (n.places.length - unused.length : Nat)
  let scale : Int :=
    match n.scale with
    | none => 0
    | some (down, digits) => if down then -(Text.numeralValue digits) else Text.numeralValue digits
  Double.scaled? n.negative significand (scale + dropped.length - used)

/-- Whole numbers are those of 64 bits, with or without a sign. Others, and a zero with a minus,
    are floating point numbers. None beyond the greatest of these. -/
def value? (n : NumberText) : Option Json :=
  let magnitude := Text.numeralValue n.whole
  if n.places.isEmpty ∧ n.scale.isNone ∧
      (if n.negative then 0 < magnitude ∧ magnitude ≤ UInt64.size / 2 else magnitude < UInt64.size)
  then some (.int (if n.negative then -(magnitude : Int) else magnitude))
  else n.double?.map .float

def beyondInt32 (start : Nat) : List Char → List Char
  | [] => []
  | c :: rest =>
    let next := 10 * start + (c.toNat - '0'.toNat)
    if Int32.maxValue.toInt < next then rest else beyondInt32 next rest

end Reading.NumberText

namespace Reading

def number : Reading Json := do
  let n ← numberText .valueEnds
  match n.value? with
  | some json => return json
  | none =>
    if let some (_, digits) := n.scale then modify (NumberText.beyondInt32 0 digits ++ ·)
    fail .numberTooGreat

def simple : Reading Json := do
  match ← ahead? with
  | none => failNext .valueEnds
  | some 'n' => do
    pass
    word ['u', 'l', 'l']
    return .null
  | some 't' => do
    pass
    word ['r', 'u', 'e']
    return .bool true
  | some 'f' => do
    pass
    word ['a', 'l', 's', 'e']
    return .bool false
  | some '"' => do
    pass
    return .str (← text)
  | some c => if c = '-' ∨ c.isDigit then number else failNext .noValue

end Reading

end AutoscalerOperator.Json
