import AutoscalerOperator.Proofs.Instant.Calendar
import AutoscalerOperator.Proofs.Text.Numeral

namespace AutoscalerOperator

namespace Instant

theorem yearInRange_iff {year : Int} :
    yearInRange year = true ↔ -262143 ≤ year ∧ year ≤ 262142 := by
  rw [yearInRange, Bool.and_eq_true, decide_eq_true_iff, decide_eq_true_iff]
  rfl

namespace Reader

variable {α β : Type} {reader : Reader α} {text middle rest : List Char} {value : α}

/-- From the front of a text a value is read, and the rest is left. -/
def Reads (reader : Reader α) (text : List Char) (value : α) (rest : List Char) : Prop :=
  reader.run text = .ok (value, rest)

theorem Reads.bind {next : α → Reader β} {result : β} (first : reader.Reads text value middle)
    (second : (next value).Reads middle result rest) :
    (reader >>= next).Reads text result rest := by
  rw [Reads, StateT.run_bind, first]
  exact second

theorem reads_pure (value : α) (text : List Char) : Reads (pure value) text value text := rfl

theorem reads_get (text : List Char) : Reads get text text text := rfl

theorem reads_set (text rest : List Char) : Reads (set rest) text PUnit.unit rest := rfl

def Solid (text : List Char) : Prop := ∀ c ∈ text.head?, Text.isBlank c = false

def Stopped (text : List Char) : Prop := ∀ c ∈ text.head?, c.isDigit = false

theorem reads_blanks (solid : Solid text) : blanks.Reads text () text := by
  cases text with
  | nil => rfl
  | cons c rest =>
    have solid : Text.isBlank c = false := solid c rfl
    change Except.ok ((), Text.trimLeft (c :: rest)) = _
    rw [Text.trimLeft, List.dropWhile_cons, solid, if_neg Bool.false_ne_true]

theorem reads_expect (c : Char) (rest : List Char) : (expect c).Reads (c :: rest) () rest := by
  refine (reads_get _).bind ?_
  simp only [if_true]
  exact reads_set _ _

theorem reads_numeral {most : Nat} {digits : List Char} (some : digits ≠ [])
    (all : ∀ c ∈ digits, c.isDigit = true) (room : digits.length ≤ most)
    (whole : digits.length = most ∨ Stopped rest) :
    (numeral most).Reads (digits ++ rest) digits rest := by
  have none : (rest.take (most - digits.length)).takeWhile Char.isDigit = [] := by
    rcases whole with full | stopped
    · rw [full, Nat.sub_self, List.take_zero, List.takeWhile_nil]
    · cases rest with
      | nil => rw [List.take_nil, List.takeWhile_nil]
      | cons c rest =>
        have stopped : c.isDigit = false := stopped c rfl
        cases most - digits.length <;> simp [stopped]
  have taken : ((digits ++ rest).take most).takeWhile Char.isDigit = digits := by
    rw [List.take_append, List.take_of_length_le room, List.takeWhile_append_of_pos all, none,
      List.append_nil]
  have text : (digits ++ rest).isEmpty = false := by simp [some]
  have found : digits.isEmpty = false := List.isEmpty_eq_false_iff.mpr some
  refine (reads_get _).bind ?_
  simp only [text, taken, found, List.drop_left]
  exact (reads_set _ _).bind (reads_pure _ _)

theorem reads_padded {most width n : Nat} (room : (Text.padded width n).toList.length ≤ most)
    (whole : (Text.padded width n).toList.length = most ∨ Stopped rest) :
    (number most).Reads ((Text.padded width n).toList ++ rest) n rest := by
  refine (reads_numeral (Text.padded_ne_nil width n) (fun _ => Text.isDigit_of_mem_padded) room
    whole).bind ?_
  rw [Text.numeralValue_padded]
  exact reads_pure _ _

theorem solid_padded (width n : Nat) : Solid ((Text.padded width n).toList ++ rest) := by
  intro c first
  cases written : (Text.padded width n).toList with
  | nil => exact absurd written (Text.padded_ne_nil width n)
  | cons digit digits =>
    rw [written] at first
    cases first
    exact Text.isBlank_of_isDigit (Text.isDigit_of_mem_padded (written ▸ List.mem_cons_self))

theorem reads_field {low high n : Nat} (least : low ≤ n) (most : n ≤ high) (two : high < 100) :
    (field low high).Reads ((Text.padded 2 n).toList ++ rest) n rest := by
  have width : (Text.padded 2 n).toList.length = 2 :=
    Text.length_padded_of_lt (by decide) (by omega)
  refine (reads_blanks (solid_padded 2 n)).bind
    ((reads_padded (Nat.le_of_eq width) (.inl width)).bind ?_)
  have within : ¬(n < low ∨ high < n) := by omega
  simp only [within, if_false]
  exact reads_pure _ _

theorem signed_of_digit {c : Char} (digit : c.isDigit = true) (rest : List Char) :
    signed (c :: rest) = (do return (← number 4)) := by
  unfold signed
  split
  case h_1 same => cases same; exact absurd digit (by decide)
  case h_2 same => cases same; exact absurd digit (by decide)
  case h_3 => rfl

theorem reads_minus {n : Nat} (reads : (number text.length).Reads text n rest) :
    (signed ('-' :: text)).Reads ('-' :: text) (-(n : Int)) rest :=
  (reads_set _ _).bind (reads.bind (reads_pure _ _))

theorem reads_plus {n : Nat} (reads : (number text.length).Reads text n rest) :
    (signed ('+' :: text)).Reads ('+' :: text) (n : Int) rest :=
  (reads_set _ _).bind (reads.bind (reads_pure _ _))

theorem reads_signed {year : Int} (stopped : Stopped rest) :
    (signed ((CivilDate.yearText year).toList ++ rest)).Reads
      ((CivilDate.yearText year).toList ++ rest) year rest := by
  have after (n : Nat) : (number ((Text.padded 4 n).toList ++ rest).length).Reads
      ((Text.padded 4 n).toList ++ rest) n rest :=
    reads_padded (by simp) (.inr stopped)
  unfold CivilDate.yearText
  split
  case isTrue common =>
    have width : (Text.padded 4 year.toNat).toList.length = 4 :=
      Text.length_padded_of_lt (by decide) (by omega)
    have reads : (number 4).Reads ((Text.padded 4 year.toNat).toList ++ rest) year.toNat rest :=
      reads_padded (Nat.le_of_eq width) (.inl width)
    cases written : (Text.padded 4 year.toNat).toList with
    | nil => exact absurd written (Text.padded_ne_nil 4 year.toNat)
    | cons digit digits =>
      have first : digit.isDigit = true :=
        Text.isDigit_of_mem_padded (written ▸ List.mem_cons_self)
      rw [List.cons_append, signed_of_digit first, ← List.cons_append, ← written]
      have whole : (year.toNat : Int) = year := Int.toNat_of_nonneg common.1
      refine reads.bind ?_
      rw [whole]
      exact reads_pure _ _
  case isFalse uncommon =>
    by_cases negative : year < 0
    · have whole : -(year.natAbs : Int) = year := by omega
      have reads := reads_minus (after year.natAbs)
      rw [whole] at reads
      rwa [if_pos negative, String.toList_append, List.append_assoc, show "-".toList = ['-'] from rfl,
        List.singleton_append]
    · have whole : (year.natAbs : Int) = year := by omega
      have reads := reads_plus (after year.natAbs)
      rw [whole] at reads
      rwa [if_neg negative, String.toList_append, List.append_assoc, show "+".toList = ['+'] from rfl,
        List.singleton_append]

theorem solid_yearText (year : Int) : Solid ((CivilDate.yearText year).toList ++ rest) := by
  unfold CivilDate.yearText
  split
  · exact solid_padded 4 _
  · intro c first
    rw [String.toList_append, List.append_assoc] at first
    split at first <;> cases first <;> rfl

theorem reads_year {year : Int} (within : yearInRange year = true) (stopped : Stopped rest) :
    Reader.year.Reads ((CivilDate.yearText year).toList ++ rest) year rest := by
  obtain ⟨least, most⟩ := yearInRange_iff.mp within
  have fits : ¬(year < Int32.minValue.toInt ∨ Int32.maxValue.toInt < year) := by
    rw [show Int32.minValue.toInt = -2147483648 by decide,
      show Int32.maxValue.toInt = 2147483647 by decide]
    omega
  refine (reads_blanks (solid_yearText year)).bind ((reads_get _).bind
    ((reads_signed stopped).bind ?_))
  simp only [fits, if_false]
  exact reads_pure _ _

theorem solid_cons {c : Char} (solid : Text.isBlank c = false) : Solid (c :: rest) := by
  rintro _ ⟨⟩
  exact solid

theorem stopped_cons {c : Char} (stopped : c.isDigit = false) : Stopped (c :: rest) := by
  rintro _ ⟨⟩
  exact stopped

theorem reads_date {date : CivilDate} (real : date.Real)
    (within : yearInRange date.year = true) :
    Reader.date.Reads (date.toText.toList ++ rest) date rest := by
  have month : date.month ≤ 12 := real.month_le
  have day : date.day ≤ 31 := Nat.le_trans real.day_le (by
    unfold CivilDate.daysInMonth
    split <;> (try split) <;> decide)
  have hyphen : "-".toList = ['-'] := rfl
  have solid {rest : List Char} : Solid ('-' :: rest) := solid_cons rfl
  simp only [CivilDate.toText, String.toList_append, hyphen, List.append_assoc,
    List.singleton_append]
  refine (reads_year within (stopped_cons rfl)).bind ?_
  refine (reads_blanks solid).bind ((reads_expect _ _).bind ?_)
  refine (reads_field real.month_pos month (by decide)).bind ?_
  refine (reads_blanks solid).bind ((reads_expect _ _).bind ?_)
  exact (reads_field real.day_pos day (by decide)).bind (reads_pure _ _)

theorem reads_dateEnd (rest : List Char) : dateEnd.Reads ('T' :: rest) () rest :=
  (reads_get _).bind (reads_set _ _)

theorem reads_time {hour minute second : Nat} (hours : hour ≤ 23) (minutes : minute ≤ 59)
    (seconds : second ≤ 60) :
    time.Reads ((Text.padded 2 hour).toList ++ ':' :: ((Text.padded 2 minute).toList ++
      ':' :: ((Text.padded 2 second).toList ++ 'Z' :: rest))) (.of hour minute second)
        ('Z' :: rest) := by
  have solid {rest : List Char} : Solid (':' :: rest) := solid_cons rfl
  refine (reads_field (Nat.zero_le _) hours (by decide)).bind ?_
  refine (reads_blanks solid).bind ((reads_expect _ _).bind ?_)
  refine (reads_field (Nat.zero_le _) minutes (by decide)).bind ?_
  refine (reads_blanks solid).bind ((reads_expect _ _).bind ?_)
  refine (reads_field (Nat.zero_le _) seconds (by decide)).bind ?_
  exact (reads_get _).bind (reads_pure _ _)

theorem reads_offset : offset.Reads ['Z'] 0 [] := rfl

end Reader

theorem TimeOfDay.of_eq {seconds : Nat} {leap : Bool} (last : leap = true → seconds % 60 = 59) :
    TimeOfDay.of (seconds / 3600) (seconds / 60 % 60) (seconds % 60 + if leap then 1 else 0) =
      ⟨seconds, leap, last⟩ := by
  cases leap with
  | false =>
    have common : seconds % 60 ≠ 60 := by omega
    simp only [TimeOfDay.of, Bool.false_eq_true, if_false, Nat.add_zero, common]
    congr 1
    omega
  | true =>
    have last : seconds % 60 = 59 := last rfl
    simp only [TimeOfDay.of, if_true, last]
    congr 1
    omega

def Reader.parts : Reader (CivilDate × TimeOfDay × Int) := do
  let date ← Reader.date
  Reader.dateEnd
  let time ← Reader.time
  return (date, time, ← Reader.offset)

/-- A text tells a moment if its parts can be read, are ones of the calendar and lie within its
    range. -/
theorem ofText_eq_ok_iff {text : String} {t : Instant} :
    ofText text = .ok t ↔ ∃ date time offset rest,
      Reader.parts.Reads text.toList (date, time, offset) rest ∧ Text.trimLeft rest = [] ∧
      yearInRange date.year = true ∧ date.day ≤ CivilDate.daysInMonth date.year date.month ∧
      (-minutesPerDay < offset ∧ offset < minutesPerDay) ∧
      ofLocal? date time offset = some t := by
  change (Reader.parts.run text.toList >>= _) = _ ↔ _
  unfold Reader.Reads
  cases Reader.parts.run text.toList with
  | error e => simp [bind, Except.bind]
  | ok parts =>
    obtain ⟨⟨date, time, offset⟩, rest⟩ := parts
    simp only [bind, Except.bind, Bool.or_eq_true, Bool.not_eq_true', decide_eq_true_eq]
    constructor
    · intro read
      split at read
      · cases read
      split at read
      · cases read
      split at read
      · cases read
      rename_i blank real near
      have nothing : (Text.trimLeft rest).isEmpty = true := eq_true_of_ne_false blank
      refine ⟨date, time, offset, rest, rfl, List.isEmpty_iff.mp nothing, ?_, ?_, ?_, ?_⟩
      · exact eq_true_of_ne_false fun beyond => real (.inl beyond)
      · exact Nat.not_lt.mp fun late => real (.inr late)
      · omega
      · cases located : ofLocal? date time offset with
        | none => simp only [located] at read; cases read
        | some found => simp only [located] at read; cases read; rfl
    · rintro ⟨_, _, _, _, same, blank, year, day, near, located⟩
      cases same
      have real : ¬(yearInRange date.year = false ∨
          CivilDate.daysInMonth date.year date.month < date.day) := by
        rintro (beyond | late)
        · cases year.symm.trans beyond
        · exact Nat.not_lt.mpr day late
      rw [blank, if_neg (by decide), if_neg real, if_neg (by omega), located]
      rfl

/-- A moment that a text can tell: its date is one of the calendar's, and a leap second ends a
    minute. -/
structure Readable (t : Instant) : Prop where
  year : yearInRange (CivilDate.ofDays (t.seconds / secondsPerDay)).year = true
  leap_last : t.leap = true → t.seconds % 60 = 59

theorem toList_toText (t : Instant) :
    t.toText.toList =
      let time := (t.seconds % secondsPerDay).toNat
      (CivilDate.ofDays (t.seconds / secondsPerDay)).toText.toList ++
        'T' :: ((Text.padded 2 (time / 3600)).toList ++
          ':' :: ((Text.padded 2 (time / 60 % 60)).toList ++
            ':' :: ((Text.padded 2 (time % 60 + if t.leap then 1 else 0)).toList ++ ['Z']))) := by
  have letters : "T".toList = ['T'] ∧ ":".toList = [':'] ∧ "Z".toList = ['Z'] := ⟨rfl, rfl, rfl⟩
  simp only [toText, civilText, String.toList_append, letters, List.append_assoc,
    List.cons_append, List.nil_append]

theorem Readable.ofText_toText {t : Instant} (readable : t.Readable) :
    ofText t.toText = .ok t := by
  have low := Int.emod_nonneg t.seconds (show secondsPerDay ≠ 0 by decide)
  have high := Int.emod_lt_of_pos t.seconds (show 0 < secondsPerDay by decide)
  have whole := Int.mul_ediv_add_emod t.seconds secondsPerDay
  have real := CivilDate.real_ofDays (t.seconds / secondsPerDay)
  have days := CivilDate.toDays_ofDays (t.seconds / secondsPerDay)
  have second : (t.seconds % secondsPerDay).toNat % 60 + (if t.leap then 1 else 0) ≤ 60 := by
    split <;> omega
  have leap : t.leap = true → (t.seconds % secondsPerDay).toNat % 60 = 59 := by
    intro leap
    have last := readable.leap_last leap
    unfold secondsPerDay
    omega
  have parts : Reader.parts.Reads t.toText.toList
      (CivilDate.ofDays (t.seconds / secondsPerDay),
        ⟨(t.seconds % secondsPerDay).toNat, t.leap, leap⟩, 0) [] := by
    unfold secondsPerDay at low high whole
    rw [toList_toText, ← TimeOfDay.of_eq leap]
    refine (Reader.reads_date real readable.year).bind ((Reader.reads_dateEnd _).bind ?_)
    refine (Reader.reads_time ?_ ?_ second).bind (Reader.reads_offset.bind (Reader.reads_pure _ _))
    all_goals unfold secondsPerDay; omega
  refine ofText_eq_ok_iff.mpr ⟨_, _, _, _, parts, rfl, readable.year, real.day_le, by decide, ?_⟩
  have same : (CivilDate.ofDays (t.seconds / secondsPerDay)).toDays * secondsPerDay +
      (t.seconds % secondsPerDay).toNat - 0 * 60 = t.seconds := by
    rw [days, Int.toNat_of_nonneg low, Int.zero_mul, Int.sub_zero, Int.mul_comm]
    exact whole
  simp only [ofLocal?, same, readable.year, if_true]

theorem readable_of_ofText {text : String} {t : Instant} (read : ofText text = .ok t) :
    t.Readable := by
  obtain ⟨date, time, offset, -, -, -, -, -, -, located⟩ := ofText_eq_ok_iff.mp read
  simp only [ofLocal?] at located
  split at located
  case isFalse => cases located
  case isTrue within =>
    cases located
    refine ⟨within, fun leap => ?_⟩
    have last := time.leap_last leap
    simp only [secondsPerDay]
    omega

end Instant

end AutoscalerOperator
