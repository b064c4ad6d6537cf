import AutoscalerOperator.Text.Numeral

namespace AutoscalerOperator

/-- A moment in whole seconds since the start of 1970, UTC. A leap second lasts one second more
    under the number of the second before it. -/
structure Instant where
  seconds : Int
  leap : Bool
  deriving DecidableEq

instance : Inhabited Instant := ⟨⟨0, false⟩⟩

structure CivilDate where
  year : Int
  month : Nat
  day : Nat
  deriving DecidableEq

namespace CivilDate

def isLeapYear (year : Int) : Bool := year % 4 == 0 && (year % 100 != 0 || year % 400 == 0)

def daysInMonth (year : Int) : Nat → Nat
  | 2 => if isLeapYear year then 29 else 28
  | 4 | 6 | 9 | 11 => 30
  | _ => 31

/-- Days since 1 January 1970, counted in eras of 400 years that start with a March. -/
def toDays (date : CivilDate) : Int :=
  let year := if date.month ≤ 2 then date.year - 1 else date.year
  let month : Int := if date.month ≤ 2 then date.month + 9 else date.month - 3
  let era := year / 400
  let yearOfEra := year % 400
  let dayOfYear := (153 * month + 2) / 5 + date.day - 1
  let dayOfEra := yearOfEra * 365 + yearOfEra / 4 - yearOfEra / 100 + dayOfYear
  era * 146097 + dayOfEra - 719468

def ofDays (days : Int) : CivilDate :=
  let days := days + 719468
  let era := days / 146097
  let dayOfEra := days % 146097
  let yearOfEra := (dayOfEra - dayOfEra / 1460 + dayOfEra / 36524 - dayOfEra / 146096) / 365
  let dayOfYear := dayOfEra - (365 * yearOfEra + yearOfEra / 4 - yearOfEra / 100)
  let shifted := (5 * dayOfYear + 2) / 153
  let day := dayOfYear - (153 * shifted + 2) / 5 + 1
  let month := if shifted < 10 then shifted + 3 else shifted - 9
  let year := yearOfEra + era * 400
  ⟨if month ≤ 2 then year + 1 else year, month.toNat, day.toNat⟩

def yearText (year : Int) : String :=
  if 0 ≤ year ∧ year ≤ 9999 then Text.padded 4 year.toNat
  else (if year < 0 then "-" else "+") ++ Text.padded 4 year.natAbs

def toText (date : CivilDate) : String :=
  yearText date.year ++ "-" ++ Text.padded 2 date.month ++ "-" ++ Text.padded 2 date.day

end CivilDate

namespace Instant

def secondsPerDay : Int := 86400

def civilText (t : Instant) : String :=
  let date := CivilDate.ofDays (t.seconds / secondsPerDay)
  let time := (t.seconds % secondsPerDay).toNat
  let second := time % 60 + if t.leap then 1 else 0
  date.toText ++ "T" ++ Text.padded 2 (time / 3600) ++ ":" ++ Text.padded 2 (time / 60 % 60) ++
    ":" ++ Text.padded 2 second

def toText (t : Instant) : String := t.civilText ++ "Z"

def toMicrosecondText (t : Instant) : String := t.civilText ++ ".000000Z"

end Instant

end AutoscalerOperator
