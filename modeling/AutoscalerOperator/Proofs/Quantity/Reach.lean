import AutoscalerOperator.Proofs.Quantity.Compared
import Mathlib.NumberTheory.Padics.PadicVal.Basic

namespace AutoscalerOperator

namespace Quantity

/-- A text of the grammar taken apart: a sign or none, digits with at most one point, a suffix. -/
inductive Spelled : List Char → Numeral → Scale → Prop
  | whole {sign digits suffix : List Char} {negative : Bool} {scale : Scale}
    (signed : Sign sign negative) (filled : digits ≠ []) (all : Digits digits)
    (scaled : Factor suffix scale.factor) :
    Spelled (sign ++ digits ++ suffix) ⟨negative, digits, []⟩ scale
  | pointed {sign whole fraction suffix : List Char} {negative : Bool} {scale : Scale}
    (signed : Sign sign negative) (filled : whole ++ fraction ≠ []) (all : Digits (whole ++ fraction))
    (scaled : Factor suffix scale.factor) :
    Spelled (sign ++ (whole ++ '.' :: fraction) ++ suffix) ⟨negative, whole, fraction⟩ scale

namespace Numeral

def amount (numeral : Numeral) (scale : Scale) : Amount :=
  ⟨numeral.negative, numeral.value * scale.factor⟩

def significand (numeral : Numeral) : ℕ := wholeValue (numeral.whole ++ numeral.fraction)

/-- The power of ten that the last digit counts, in units of `10 ^ -9`. -/
def exponent (numeral : Numeral) (scale : Scale) : ℤ :=
  scale.ten + 9 - numeral.fraction.length

end Numeral

/-- A quantity of the grammar whose amount fits in 128 bits, with no more than thirty digits that
    count and an exponent of three digits. -/
structure Expressible (quantity : Quantity) (numeral : Numeral) (scale : Scale) : Prop where
  spelled : Spelled (Text.trim quantity.text.toList) numeral scale
  few : ((numeral.whole ++ numeral.fraction).dropWhile (· == '0')).length ≤ 30
  near : -1000 ≤ scale.ten ∧ scale.ten ≤ 1000
  fits : -2 ^ 127 ≤ (numeral.amount scale).nanos ∧ (numeral.amount scale).nanos < 2 ^ 127
  /-- Rounding up adds to the digits first. What comes of a sum that does not fit is left open. -/
  rounds : numeral.significand * 2 ^ scale.two < 2 ^ 127 → -38 ≤ numeral.exponent scale →
    numeral.exponent scale < 0 →
      numeral.significand * 2 ^ scale.two + 10 ^ (-numeral.exponent scale).toNat < 2 ^ 127

/-- Why a quantity that fits is not read all the same: a number on the way to it does not fit. -/
inductive Lost (numeral : Numeral) (scale : Scale) : Prop
  | zero (nothing : numeral.significand = 0) (high : 38 < numeral.exponent scale)
  | least (whole : 0 ≤ numeral.exponent scale)
    (reached : numeral.significand * 2 ^ scale.two * 10 ^ (numeral.exponent scale).toNat = 2 ^ 127)
  | deep (low : numeral.exponent scale < -38)
  | wide (binary : 0 < scale.two) (below : numeral.exponent scale < 0)
    (exceeding : 2 ^ 127 ≤ numeral.significand * 2 ^ scale.two)

/-! A text is read as the parts it was put together from. -/

/-- Five divides only the powers of ten, and then two only the powers of two. -/
theorem Scale.factor_injective {scale other : Scale} (same : scale.factor = other.factor) :
    scale = other := by
  obtain ⟨ten, two⟩ := scale
  obtain ⟨ten', two'⟩ := other
  simp only [Scale.factor] at same
  have prime : Fact (Nat.Prime 5) := ⟨Nat.prime_five⟩
  have none : padicValRat 5 (2 : ℚ) = 0 := by
    have apart : padicValNat 5 2 = 0 := padicValNat.eq_zero_of_not_dvd (by decide)
    have cast : padicValRat 5 ((2 : ℕ) : ℚ) = (padicValNat 5 2 : ℤ) := padicValRat.of_nat
    rwa [apart] at cast
  have one : padicValRat 5 (10 : ℚ) = 1 := by
    have product : (10 : ℚ) = (5 : ℕ) * 2 := by norm_num
    rw [product, padicValRat.mul (by norm_num) (by norm_num), padicValRat.self (by decide), none,
      add_zero]
  have fives (ten : ℤ) (two : ℕ) : padicValRat 5 ((10 : ℚ) ^ ten * 2 ^ two) = ten := by
    rw [padicValRat.mul (zpow_ne_zero _ (by norm_num)) (pow_ne_zero _ (by norm_num)),
      padicValRat.zpow, padicValRat.pow, one, none, mul_one, mul_zero, add_zero]
  have tens : ten = ten' := by rw [← fives ten two, same, fives]
  subst tens
  have twos : (2 : ℚ) ^ two = 2 ^ two' := mul_left_cancel₀ (zpow_ne_zero _ (by norm_num)) same
  have exact : two = two' := Nat.pow_right_injective le_rfl (by exact_mod_cast twos)
  rw [exact]

variable {numeral : Numeral} {scale : Scale}

theorem ofSuffix?_of_factor_scale {suffix : List Char} (scaled : Factor suffix scale.factor) :
    Scale.ofSuffix? suffix = some scale := by
  obtain ⟨read, found, same⟩ := ofSuffix?_of_factor scaled
  rw [found, Scale.factor_injective same]

theorem Spelled.reads {text : List Char} (spelled : Spelled text numeral scale) :
    Numeral.ofText? (text.takeWhile isNumeralChar) = some numeral ∧
      Scale.ofSuffix? (text.dropWhile isNumeralChar) = some scale := by
  cases spelled with
  | whole signed filled all scaled =>
    obtain ⟨front, back⟩ :=
      cut_before_suffix (isNumeralChar_of_signed signed (.whole filled all)) scaled
    rw [front, back]
    exact ⟨ofText?_whole signed filled all, ofSuffix?_of_factor_scale scaled⟩
  | pointed signed filled all scaled =>
    obtain ⟨front, back⟩ :=
      cut_before_suffix (isNumeralChar_of_signed signed (.pointed filled all)) scaled
    rw [front, back]
    exact ⟨ofText?_pointed signed filled all, ofSuffix?_of_factor_scale scaled⟩

theorem Spelled.denotes {text : List Char} (spelled : Spelled text numeral scale) :
    Denotes text (numeral.amount scale) :=
  denotes_of_reads spelled.reads.1 spelled.reads.2

theorem nanos?_eq_none_iff {quantity : Quantity}
    (spelled : Spelled (Text.trim quantity.text.toList) numeral scale) :
    quantity.nanos? = none ↔ magnitude? numeral scale = none := by
  obtain ⟨counted, scaled⟩ := spelled.reads
  unfold nanos? nanosOf?
  simp only [counted, scaled, Option.bind_eq_bind, Option.bind_some]
  cases magnitude? numeral scale <;> simp

theorem nanos?_eq_some {quantity : Quantity}
    (spelled : Spelled (Text.trim quantity.text.toList) numeral scale)
    (read : quantity.nanos? ≠ none) : quantity.nanos? = some (numeral.amount scale).nanos := by
  obtain ⟨n, found⟩ := Option.ne_none_iff_exists'.mp read
  rw [found, ((nanos?_sound quantity).1 n found).2 _ spelled.denotes]

/-! The digits of a numeral are below the power of ten that their count says. -/

theorem wholeValue_lt {digits : List Char} (all : Digits digits) :
    wholeValue digits < 10 ^ digits.length := by
  induction digits with
  | nil => decide
  | cons c rest ih =>
    have later := ih fun c member => all c (List.mem_cons_of_mem _ member)
    have digit : digitValue c ≤ 9 := by
      obtain ⟨-, high⟩ := Char.isDigit_iff_toNat.mp (all c List.mem_cons_self)
      change c.toNat ≤ 57 at high
      change c.toNat - 48 ≤ 9
      omega
    have first : digitValue c * 10 ^ rest.length ≤ 9 * 10 ^ rest.length :=
      Nat.mul_le_mul_right _ digit
    rw [wholeValue, List.length_cons, Nat.pow_succ]
    omega

theorem wholeValue_dropWhile (digits : List Char) :
    wholeValue (digits.dropWhile (· == '0')) = wholeValue digits := by
  induction digits with
  | nil => rfl
  | cons c rest ih =>
    by_cases zero : c = '0'
    · subst zero
      have nothing : digitValue '0' = 0 := rfl
      rw [List.dropWhile_cons_of_pos (by simp), ih, wholeValue, nothing, Nat.zero_mul, Nat.zero_add]
    · rw [List.dropWhile_cons_of_neg (by simpa using zero)]

theorem Spelled.digits {text : List Char} (spelled : Spelled text numeral scale) :
    Digits (numeral.whole ++ numeral.fraction) := by
  cases spelled with
  | whole signed filled all scaled => simpa using all
  | pointed signed filled all scaled => exact all

theorem Expressible.significand_lt {quantity : Quantity}
    (expressible : Expressible quantity numeral scale) : numeral.significand < 10 ^ 30 := by
  let shown := (numeral.whole ++ numeral.fraction).dropWhile (· == '0')
  have digits : Digits shown := fun c member =>
    expressible.spelled.digits c ((List.dropWhile_sublist _).subset member)
  calc
    numeral.significand = wholeValue shown := (wholeValue_dropWhile _).symm
    _ < 10 ^ shown.length := wholeValue_lt digits
    _ ≤ 10 ^ 30 := Nat.pow_le_pow_right (by decide) expressible.few

/-! Which of the numbers on the way to a magnitude must fit. -/

theorem magnitude?_ne_none_iff (numeral : Numeral) (scale : Scale) :
    magnitude? numeral scale ≠ none ↔
      numeral.significand < 2 ^ 127 ∧ numeral.significand * 2 ^ scale.two < 2 ^ 127 ∧
        (0 ≤ numeral.exponent scale → numeral.exponent scale ≤ 38 ∧
          numeral.significand * 2 ^ scale.two * 10 ^ (numeral.exponent scale).toNat < 2 ^ 127) ∧
        (numeral.exponent scale < 0 → -38 ≤ numeral.exponent scale) := by
  have range : limit = 2 ^ 127 := rfl
  rw [Numeral.significand, ← numeralValue_eq, ← Nat.shiftLeft_eq, ← range]
  unfold magnitude? Numeral.exponent fitting? powerOfTen?
  generalize Text.numeralValue (numeral.whole ++ numeral.fraction) = significand
  generalize scale.ten + 9 - (numeral.fraction.length : ℤ) = exponent
  generalize limit = limit
  by_cases first : significand < limit
  · by_cases second : significand <<< scale.two < limit
    · by_cases up : 0 ≤ exponent
      · have down : ¬exponent < 0 := by omega
        have power : exponent.toNat ≤ 38 ↔ exponent ≤ 38 := by omega
        simp [first, second, up, down, power]
      · have down : exponent < 0 := by omega
        have power : (-exponent).toNat ≤ 38 ↔ -38 ≤ exponent := by omega
        simp [first, second, up, down, power]
    · simp [first, second]
  · simp [first]

theorem ceil_le_of_fits {amount : Amount} (low : -2 ^ 127 ≤ amount.nanos)
    (high : amount.nanos < 2 ^ 127) : ⌈amount.magnitude * 10 ^ 9⌉ ≤ 2 ^ 127 := by
  unfold Amount.nanos at low high
  by_cases negative : amount.negative = true
  · rw [if_pos negative] at low
    omega
  · rw [if_neg negative] at high
    omega

theorem reached_le_of_fits {quantity : Quantity} (expressible : Expressible quantity numeral scale)
    (up : 0 ≤ numeral.exponent scale) :
    numeral.significand * 2 ^ scale.two * 10 ^ (numeral.exponent scale).toNat ≤ 2 ^ 127 := by
  have fits : ⌈numeral.value * scale.factor * 10 ^ 9⌉ ≤ 2 ^ 127 :=
    ceil_le_of_fits expressible.fits.1 expressible.fits.2
  rw [value_mul_factor, numeralValue_eq] at fits
  change ⌈((numeral.significand * 2 ^ scale.two : ℕ) : ℚ) * 10 ^ numeral.exponent scale⌉ ≤ _ at fits
  rw [ten_zpow_of_nonneg up, ← Nat.cast_mul, Int.ceil_natCast] at fits
  exact_mod_cast fits

theorem lost_iff_of_up {quantity : Quantity} (expressible : Expressible quantity numeral scale)
    (up : 0 ≤ numeral.exponent scale) :
    magnitude? numeral scale = none ↔ Lost numeral scale := by
  have reached := reached_le_of_fits expressible up
  rw [← not_iff_not, ← ne_eq, magnitude?_ne_none_iff]
  generalize shown : numeral.significand * 2 ^ scale.two = amount at reached ⊢
  constructor
  · rintro ⟨-, -, above, -⟩ lost
    obtain ⟨power, fits⟩ := above up
    cases lost with
    | zero nothing high => omega
    | least whole full =>
      rw [shown] at full
      omega
    | deep low => omega
    | wide binary below exceeding => omega
  · intro kept
    have short : amount * 10 ^ (numeral.exponent scale).toNat < 2 ^ 127 := by
      refine lt_of_le_of_ne reached fun full => kept (.least up ?_)
      rw [shown, full]
    have tens : 0 < 10 ^ (numeral.exponent scale).toNat := Nat.pow_pos (by decide)
    have grown : amount ≤ amount * 10 ^ (numeral.exponent scale).toNat :=
      Nat.le_mul_of_pos_right _ tens
    have doubled : numeral.significand ≤ amount :=
      shown ▸ Nat.le_mul_of_pos_right _ (Nat.pow_pos (by decide))
    refine ⟨by omega, by omega, fun _ => ⟨?_, short⟩, fun down => by omega⟩
    by_contra high
    have something : numeral.significand ≠ 0 := fun nothing => kept (.zero nothing (by omega))
    have more : 10 ^ 39 ≤ 10 ^ (numeral.exponent scale).toNat :=
      Nat.pow_le_pow_right (by decide) (by omega)
    have all : 10 ^ (numeral.exponent scale).toNat ≤
        amount * 10 ^ (numeral.exponent scale).toNat := Nat.le_mul_of_pos_left _ (by omega)
    omega

theorem lost_iff_of_down {quantity : Quantity} (expressible : Expressible quantity numeral scale)
    (down : numeral.exponent scale < 0) :
    magnitude? numeral scale = none ↔ Lost numeral scale := by
  have few := expressible.significand_lt
  have doubled : numeral.significand ≤ numeral.significand * 2 ^ scale.two :=
    Nat.le_mul_of_pos_right _ (Nat.pow_pos (by decide))
  rw [← not_iff_not, ← ne_eq, magnitude?_ne_none_iff]
  constructor
  · rintro ⟨-, fits, -, reach⟩ lost
    have low := reach down
    cases lost with
    | zero nothing high => omega
    | least whole full => omega
    | deep low => omega
    | wide binary below exceeding => omega
  · intro kept
    have fits : numeral.significand * 2 ^ scale.two < 2 ^ 127 := by
      by_contra exceeding
      have binary : 0 < scale.two := by
        rcases Nat.eq_zero_or_pos scale.two with plain | binary
        · rw [plain, Nat.pow_zero, Nat.mul_one] at exceeding
          omega
        · exact binary
      exact kept (.wide binary down (by omega))
    refine ⟨by omega, fits, fun up => by omega, fun _ => ?_⟩
    by_contra low
    exact kept (.deep (by omega))

theorem nanos?_eq_none_iff_lost {quantity : Quantity}
    (expressible : Expressible quantity numeral scale) :
    quantity.nanos? = none ↔ Lost numeral scale := by
  rw [nanos?_eq_none_iff expressible.spelled]
  rcases le_or_gt 0 (numeral.exponent scale) with up | down
  · exact lost_iff_of_up expressible up
  · exact lost_iff_of_down expressible down

/-- A quantity whose amount fits is read as that amount unless it is lost on the way, and two that
    stand for one amount are equal unless one of them is. -/
theorem read_unless_lost {left right : Quantity} {numeral other : Numeral} {scale otherScale : Scale}
    (first : Expressible left numeral scale) (second : Expressible right other otherScale) :
    (left.nanos? = none ↔ Lost numeral scale) ∧
    (¬Lost numeral scale → left.nanos? = some (numeral.amount scale).nanos) ∧
    ((numeral.amount scale).nanos = (other.amount otherScale).nanos →
      (left.semanticEq right = true ↔
        ¬Lost numeral scale ∧ ¬Lost other otherScale ∨ left = right)) := by
  have lost := nanos?_eq_none_iff_lost first
  have otherLost := nanos?_eq_none_iff_lost second
  refine ⟨lost, fun kept => nanos?_eq_some first.spelled (mt lost.mp kept), fun same => ?_⟩
  rw [semanticEq_iff_canonical, canonical_eq_iff, ← lost, ← otherLost]
  constructor
  · rintro (⟨n, read, again⟩ | ⟨-, -, texts⟩)
    · exact .inl ⟨by rw [read]; nofun, by rw [again]; nofun⟩
    · exact .inr texts
  · rintro (⟨read, again⟩ | rfl)
    · refine .inl ⟨_, nanos?_eq_some first.spelled read, ?_⟩
      rw [same]
      exact nanos?_eq_some second.spelled again
    · exact canonical_eq_iff.mp rfl

theorem fits_of_read {quantity : Quantity} {n : ℤ}
    (spelled : Spelled (Text.trim quantity.text.toList) numeral scale)
    (read : quantity.nanos? = some n) :
    -2 ^ 127 ≤ (numeral.amount scale).nanos ∧ (numeral.amount scale).nanos < 2 ^ 127 := by
  have fits : n.natAbs < 2 ^ 127 := natAbs_nanos_lt read
  rw [← (nanos?_sound quantity).1 n read |>.2 _ spelled.denotes]
  omega

theorem expressible_tenth : Expressible ⟨"0.1n"⟩ ⟨false, ['0'], ['1']⟩ ⟨-9, 0⟩ := by
  have text : Text.trim "0.1n".toList = [] ++ (['0'] ++ '.' :: ['1']) ++ ['n'] := by decide
  have spelled : Spelled (Text.trim "0.1n".toList) ⟨false, ['0'], ['1']⟩ ⟨-9, 0⟩ :=
    text ▸ .pointed .absent (by decide) (List.all_eq_true.mp rfl) (ofSuffix?_eq_some rfl)
  have read : nanos? ⟨"0.1n"⟩ = some 1 := by decide
  exact ⟨spelled, by decide, by decide, fits_of_read spelled read, by decide⟩

theorem expressible_one : Expressible ⟨"1n"⟩ ⟨false, ['1'], []⟩ ⟨-9, 0⟩ := by
  have text : Text.trim "1n".toList = [] ++ ['1'] ++ ['n'] := by decide
  have spelled : Spelled (Text.trim "1n".toList) ⟨false, ['1'], []⟩ ⟨-9, 0⟩ :=
    text ▸ .whole .absent (by decide) (List.all_eq_true.mp rfl) (ofSuffix?_eq_some rfl)
  have read : nanos? ⟨"1n"⟩ = some 1 := by decide
  exact ⟨spelled, by decide, by decide, fits_of_read spelled read, by decide⟩

theorem tenth_read_as_one :
    Expressible ⟨"0.1n"⟩ ⟨false, ['0'], ['1']⟩ ⟨-9, 0⟩ ∧
      Expressible ⟨"1n"⟩ ⟨false, ['1'], []⟩ ⟨-9, 0⟩ ∧
      (Quantity.mk "0.1n").nanos? = some 1 ∧ (Quantity.mk "0.1n").semanticEq ⟨"1n"⟩ = true := by
  have tenth : nanos? ⟨"0.1n"⟩ = some 1 := by decide
  have one : nanos? ⟨"1n"⟩ = some 1 := by decide
  obtain ⟨lost, value, equal⟩ := read_unless_lost expressible_tenth expressible_one
  obtain ⟨otherLost, otherValue, -⟩ := read_unless_lost expressible_one expressible_tenth
  have kept := mt lost.mpr (by rw [tenth]; nofun)
  have otherKept := mt otherLost.mpr (by rw [one]; nofun)
  have same := Option.some.inj
    ((value kept).symm.trans (tenth.trans (one.symm.trans (otherValue otherKept))))
  exact ⟨expressible_tenth, expressible_one, tenth, (equal same).mpr (.inl ⟨kept, otherKept⟩)⟩

/-- Zero is nothing else for being written with an exponent, and is not read all the same. -/
theorem zero_lost_with_exponent :
    Expressible ⟨"0e30"⟩ ⟨false, ['0'], []⟩ ⟨30, 0⟩ ∧
      Expressible ⟨"0"⟩ ⟨false, ['0'], []⟩ ⟨0, 0⟩ ∧
      (Numeral.amount ⟨false, ['0'], []⟩ ⟨30, 0⟩).nanos =
        (Numeral.amount ⟨false, ['0'], []⟩ ⟨0, 0⟩).nanos ∧
      (Quantity.mk "0e30").nanos? = none ∧ (Quantity.mk "0e30").semanticEq ⟨"0"⟩ = false := by
  have zero (scale : Scale) : (Numeral.amount ⟨false, ['0'], []⟩ scale).nanos = 0 := by
    have digit : digitValue '0' = 0 := rfl
    simp [Numeral.amount, Amount.nanos, Numeral.value, wholeValue, fractionValue, digit]
  have text : Text.trim "0e30".toList = [] ++ ['0'] ++ ['e', '3', '0'] := by decide
  have other : Text.trim "0".toList = [] ++ ['0'] ++ [] := by decide
  have spelled : Spelled (Text.trim "0e30".toList) ⟨false, ['0'], []⟩ ⟨30, 0⟩ :=
    text ▸ .whole .absent (by decide) (List.all_eq_true.mp rfl) (ofSuffix?_eq_some rfl)
  have plain : Spelled (Text.trim "0".toList) ⟨false, ['0'], []⟩ ⟨0, 0⟩ :=
    other ▸ .whole .absent (by decide) (List.all_eq_true.mp rfl) (ofSuffix?_eq_some rfl)
  refine ⟨⟨spelled, by decide, by decide, ?_, by decide⟩,
    ⟨plain, by decide, by decide, ?_, by decide⟩,
    by rw [zero, zero], by decide, by decide⟩
  · rw [zero]
    decide
  · rw [zero]
    decide

end Quantity

end AutoscalerOperator
