import AutoscalerOperator.Instant.Basic
import AutoscalerOperator.Text.Blank

namespace AutoscalerOperator

inductive InstantError
  | tooShort
  | invalid
  | outOfRange
  | tooLong
  | impossible
  deriving DecidableEq

def InstantError.message : InstantError → String
  | .tooShort => "premature end of input"
  | .invalid => "input contains invalid characters"
  | .outOfRange => "input is out of range"
  | .tooLong => "trailing input"
  | .impossible => "no possible date and time matching input"

namespace Instant

/-- Seconds since midnight. A leap second has the number of the second before it, which is the last
    one of a minute. -/
structure TimeOfDay where
  seconds : Nat
  leap : Bool
  leap_last : leap = true → seconds % 60 = 59

def TimeOfDay.of (hour minute second : Nat) : TimeOfDay :=
  if second = 60 then ⟨(hour * 60 + minute) * 60 + 59, true, by omega⟩
  else ⟨(hour * 60 + minute) * 60 + second, false, by simp⟩

abbrev Reader := StateT (List Char) (Except InstantError)

namespace Reader

def blanks : Reader Unit := modify Text.trimLeft

def expect (c : Char) : Reader Unit := do
  match ← get with
  | [] => throw .tooShort
  | head :: rest => if head = c then set rest else throw .invalid

def numeral (most : Nat) : Reader (List Char) := do
  let text ← get
  if text.isEmpty then throw .tooShort
  let digits := (text.take most).takeWhile Char.isDigit
  if digits.isEmpty then throw .invalid
  set (text.drop digits.length)
  return digits

def number (most : Nat) : Reader Nat := return Text.numeralValue (← numeral most)

def field (low high : Nat) : Reader Nat := do
  blanks
  let n ← number 2
  if n < low ∨ high < n then throw .outOfRange
  return n

def signed : List Char → Reader Int
  | '-' :: rest => do set rest; return -(← number rest.length)
  | '+' :: rest => do set rest; return (← number rest.length)
  | _ => return (← number 4)

def year : Reader Int := do
  blanks
  let n ← signed (← get)
  if n < Int32.minValue.toInt ∨ Int32.maxValue.toInt < n then throw .outOfRange
  return n

def date : Reader CivilDate := do
  let year ← year
  blanks
  expect '-'
  let month ← field 1 12
  blanks
  expect '-'
  return ⟨year, month, ← field 1 31⟩

def dateEnd : Reader Unit := do
  match ← get with
  | [] => throw .tooShort
  | c :: rest => if c = 'T' ∨ c = 't' ∨ c = ' ' then set rest else throw .invalid

def time : Reader TimeOfDay := do
  let hour ← field 0 23
  blanks
  expect ':'
  let minute ← field 0 59
  blanks
  expect ':'
  let second ← field 0 60
  if let '.' :: rest ← get then
    set rest
    discard <| numeral 9
    modify (·.dropWhile Char.isDigit)
  return .of hour minute second

def twoDigits (high : Char) : Reader Nat := do
  match ← get with
  | a :: b :: rest =>
    if !a.isDigit || !b.isDigit then throw .invalid
    if high < a then throw .outOfRange
    set rest
    return Text.numeralValue [a, b]
  | [c] => if c.utf8Size = 1 then throw .tooShort else throw .invalid
  | [] => throw .tooShort

def hoursAndMinutes : Reader Int := do
  let hours ← twoDigits '9'
  modify (·.dropWhile fun c => c == ':' || Text.isBlank c)
  let minutes ← twoDigits '5'
  return hours * 60 + minutes

def offset : Reader Int := do
  blanks
  let text ← get
  if (text.take 3).map Char.toUpper = ['U', 'T', 'C'] then
    set (text.drop 3)
    return 0
  match text with
  | [] => throw .tooShort
  | c :: rest =>
    set rest
    if c = 'Z' ∨ c = 'z' then return 0
    else if c = '+' then hoursAndMinutes
    else if c = '-' ∨ c = '\u2212' then return -(← hoursAndMinutes)
    else throw .invalid

end Reader

def greatestYear : Int := 262142

def leastYear : Int := -262143

def yearInRange (year : Int) : Bool := leastYear ≤ year && year ≤ greatestYear

def minutesPerDay : Int := 1440

def ofLocal? (date : CivilDate) (time : TimeOfDay) (offset : Int) : Option Instant :=
  let seconds := date.toDays * secondsPerDay + time.seconds - offset * 60
  if yearInRange (CivilDate.ofDays (seconds / secondsPerDay)).year then some ⟨seconds, time.leap⟩
  else none

/-- Date, time of day and offset from UTC. Between the parts blanks may stand, and a blank, too,
    between date and time. -/
def ofText (text : String) : Except InstantError Instant := do
  let parts : Reader (CivilDate × TimeOfDay × Int) := do
    let date ← Reader.date
    Reader.dateEnd
    let time ← Reader.time
    return (date, time, ← Reader.offset)
  let ((date, time, offset), rest) ← parts.run text.toList
  if !(Text.trimLeft rest).isEmpty then throw .tooLong
  if !yearInRange date.year || CivilDate.daysInMonth date.year date.month < date.day then
    throw .outOfRange
  if offset ≤ -minutesPerDay ∨ minutesPerDay ≤ offset then throw .outOfRange
  match ofLocal? date time offset with
  | some t => return t
  | none => throw .impossible

end Instant

end AutoscalerOperator
