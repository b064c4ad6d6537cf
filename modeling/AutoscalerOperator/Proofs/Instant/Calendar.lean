import Mathlib.Tactic.IntervalCases
import AutoscalerOperator.Instant.Reader

namespace AutoscalerOperator

namespace CivilDate

/-- The first day of a year of an era. Years start with a March here. -/
def firstDay (year : Int) : Int := 365 * year + year / 4 - year / 100

/-- The days of an era up to a day, the leap days taken out. -/
def plainDays (day : Int) : Int := day - day / 1460 + day / 36524 - day / 146096

theorem plainDays_le_succ (day : Int) : plainDays day ≤ plainDays (day + 1) := by
  unfold plainDays
  omega

theorem plainDays_mono {first last : Int} (ordered : first ≤ last) :
    plainDays first ≤ plainDays last := by
  obtain ⟨n, rfl⟩ := Int.le.dest ordered
  induction n with
  | zero => simp
  | succ n ih =>
    have below := ih (Int.le_add_of_nonneg_right (Int.natCast_nonneg n))
    have next := plainDays_le_succ (first + n)
    rw [Int.natCast_succ, ← Int.add_assoc]
    exact Int.le_trans below next

theorem plainDays_firstDay : ∀ year : Fin 400, 365 * (year : Int) ≤ plainDays (firstDay year) := by
  decide +kernel

theorem plainDays_lastDay : ∀ year : Fin 400,
    plainDays (firstDay (year + 1) - 1) < 365 * ((year : Int) + 1) := by
  decide +kernel

def yearOfEra (day : Int) : Int := plainDays day / 365

variable {day : Int}

theorem yearOfEra_bounds (low : 0 ≤ day) (high : day < 146097) :
    0 ≤ yearOfEra day ∧ yearOfEra day < 400 := by
  have least := plainDays_mono low
  have most := plainDays_mono (Int.le_sub_one_of_lt high)
  have start : plainDays 0 = 0 := by decide
  have finish : plainDays (146097 - 1) = 145999 := by decide
  unfold yearOfEra
  omega

theorem firstDay_yearOfEra (low : 0 ≤ day) (high : day < 146097) :
    firstDay (yearOfEra day) ≤ day ∧
      (yearOfEra day < 399 → day < firstDay (yearOfEra day + 1)) := by
  obtain ⟨positive, below⟩ := yearOfEra_bounds low high
  have divided : 365 * yearOfEra day ≤ plainDays day ∧
      plainDays day < 365 * (yearOfEra day + 1) := by
    unfold yearOfEra
    omega
  generalize yearOfEra day = year at positive below divided ⊢
  obtain ⟨year, rfl⟩ := Int.eq_ofNat_of_zero_le positive
  constructor
  · cases year with
    | zero => exact low
    | succ year =>
      refine Int.not_lt.mp fun early => ?_
      have before := plainDays_mono (Int.le_sub_one_of_lt early)
      have last : plainDays (firstDay (year + 1 : Nat) - 1) < 365 * ((year + 1 : Nat) : Int) :=
        plainDays_lastDay ⟨year, by omega⟩
      omega
  · intro notLast
    refine Int.not_le.mp fun late => ?_
    have after := plainDays_mono late
    have first : 365 * ((year + 1 : Nat) : Int) ≤ plainDays (firstDay (year + 1 : Nat)) :=
      plainDays_firstDay ⟨year + 1, by omega⟩
    rw [Int.natCast_succ] at first
    omega

theorem dayOfYear_bounds (low : 0 ≤ day) (high : day < 146097) :
    0 ≤ day - firstDay (yearOfEra day) ∧ day - firstDay (yearOfEra day) ≤ 365 ∧
      (day - firstDay (yearOfEra day) = 365 → ∀ era : Int,
        isLeapYear (yearOfEra day + 1 + era * 400) = true) := by
  obtain ⟨positive, below⟩ := yearOfEra_bounds low high
  obtain ⟨first, next⟩ := firstDay_yearOfEra low high
  generalize yearOfEra day = year at positive below first next ⊢
  unfold firstDay at first next ⊢
  refine ⟨by omega, by omega, fun long era => ?_⟩
  have leap : year = 399 ∨ (year + 1) % 4 = 0 ∧ (year + 1) % 100 ≠ 0 := by
    by_cases last : year = 399
    · exact .inl last
    · have quarters : (year + 1) / 4 ≤ year / 4 + 1 := by omega
      have centuries : year / 100 ≤ (year + 1) / 100 := by omega
      omega
  simp only [isLeapYear, Bool.and_eq_true, Bool.or_eq_true, beq_iff_eq, bne_iff_ne]
  omega

def ofMarch (year dayOfYear : Int) : CivilDate :=
  let shifted := (5 * dayOfYear + 2) / 153
  let day := (dayOfYear - (153 * shifted + 2) / 5 + 1).toNat
  if shifted < 10 then ⟨year, (shifted + 3).toNat, day⟩ else ⟨year + 1, (shifted - 9).toNat, day⟩

theorem ofMarch_eq (year : Int) {dayOfYear : Int} (low : 0 ≤ dayOfYear) (high : dayOfYear ≤ 365) :
    ofMarch year dayOfYear =
      let shifted := (5 * dayOfYear + 2) / 153
      let day := dayOfYear - (153 * shifted + 2) / 5 + 1
      let month := if shifted < 10 then shifted + 3 else shifted - 9
      ⟨if month ≤ 2 then year + 1 else year, month.toNat, day.toNat⟩ := by
  by_cases spring : (5 * dayOfYear + 2) / 153 < 10
  · have late : ¬ (5 * dayOfYear + 2) / 153 + 3 ≤ 2 := by omega
    simp only [ofMarch, spring, late, if_true, if_false]
  · have early : (5 * dayOfYear + 2) / 153 - 9 ≤ 2 := by omega
    simp only [ofMarch, spring, early, if_true, if_false]

theorem ofDays_eq (days : Int) :
    ofDays days = ofMarch
      (yearOfEra ((days + 719468) % 146097) + (days + 719468) / 146097 * 400)
      ((days + 719468) % 146097 - firstDay (yearOfEra ((days + 719468) % 146097))) := by
  have low := Int.emod_nonneg (days + 719468) (show (146097 : Int) ≠ 0 by decide)
  have high := Int.emod_lt_of_pos (days + 719468) (show (0 : Int) < 146097 by decide)
  obtain ⟨first, last, -⟩ := dayOfYear_bounds low high
  exact (ofMarch_eq _ first last).symm

theorem toDays_ofMarch (year : Int) {dayOfYear : Int} (low : 0 ≤ dayOfYear)
    (high : dayOfYear ≤ 365) :
    (ofMarch year dayOfYear).toDays =
      year / 400 * 146097 + firstDay (year % 400) + dayOfYear - 719468 := by
  simp only [ofMarch]
  split
  · have late : ¬ ((5 * dayOfYear + 2) / 153 + 3).toNat ≤ 2 := by omega
    simp only [toDays, late, if_false, firstDay]
    omega
  · have early : ((5 * dayOfYear + 2) / 153 - 9).toNat ≤ 2 := by omega
    simp only [toDays, early, if_true, firstDay, Int.add_sub_cancel]
    omega

structure Real (date : CivilDate) : Prop where
  month_pos : 1 ≤ date.month
  month_le : date.month ≤ 12
  day_pos : 1 ≤ date.day
  day_le : date.day ≤ daysInMonth date.year date.month

theorem real_ofMarch {year dayOfYear : Int} (low : 0 ≤ dayOfYear) (high : dayOfYear ≤ 365)
    (leap : dayOfYear = 365 → isLeapYear (year + 1) = true) : (ofMarch year dayOfYear).Real := by
  have least : 0 ≤ (5 * dayOfYear + 2) / 153 := by omega
  have most : (5 * dayOfYear + 2) / 153 ≤ 11 := by omega
  have cut : 153 * ((5 * dayOfYear + 2) / 153) ≤ 5 * dayOfYear + 2 ∧
      5 * dayOfYear + 2 < 153 * ((5 * dayOfYear + 2) / 153) + 153 := by omega
  simp only [ofMarch]
  generalize (5 * dayOfYear + 2) / 153 = shifted at least most cut ⊢
  interval_cases shifted
  case «11» =>
    have february : dayOfYear - 337 + 1 ≤ if isLeapYear (year + 1) = true then 29 else 28 := by
      split
      case isTrue => omega
      case isFalse common =>
        have short := mt leap common
        omega
    constructor <;> simp [daysInMonth, february]
    omega
  all_goals constructor <;> simp [daysInMonth] <;> omega

theorem toDays_ofDays (days : Int) : (ofDays days).toDays = days := by
  have low := Int.emod_nonneg (days + 719468) (show (146097 : Int) ≠ 0 by decide)
  have high := Int.emod_lt_of_pos (days + 719468) (show (0 : Int) < 146097 by decide)
  have whole := Int.mul_ediv_add_emod (days + 719468) 146097
  obtain ⟨positive, below⟩ := yearOfEra_bounds low high
  obtain ⟨first, last, -⟩ := dayOfYear_bounds low high
  rw [ofDays_eq, toDays_ofMarch _ first last, Int.add_mul_ediv_right _ _ (by decide),
    Int.add_mul_emod_self_right, Int.ediv_eq_zero_of_lt positive below,
    Int.emod_eq_of_lt positive below]
  omega

theorem real_ofDays (days : Int) : (ofDays days).Real := by
  have low := Int.emod_nonneg (days + 719468) (show (146097 : Int) ≠ 0 by decide)
  have high := Int.emod_lt_of_pos (days + 719468) (show (0 : Int) < 146097 by decide)
  obtain ⟨first, last, leap⟩ := dayOfYear_bounds low high
  rw [ofDays_eq]
  refine real_ofMarch first last fun long => ?_
  rw [Int.add_right_comm]
  exact leap long _

end CivilDate

end AutoscalerOperator
