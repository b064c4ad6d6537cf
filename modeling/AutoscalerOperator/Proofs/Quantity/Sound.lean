import AutoscalerOperator.Proofs.Quantity.Grammar
import Mathlib.Data.Rat.Floor

namespace AutoscalerOperator

namespace Quantity

/-- The amount in units of `10 ^ -9`, rounded away from zero. -/
def Amount.nanos (amount : Amount) : ℤ :=
  if amount.negative then -⌈amount.magnitude * 10 ^ 9⌉ else ⌈amount.magnitude * 10 ^ 9⌉

/-! A text of the grammar is read, and a text that is read is of the grammar. -/

theorem cut_before_suffix {number suffix : List Char} {factor : ℚ}
    (numeric : ∀ c ∈ number, isNumeralChar c = true) (scaled : Factor suffix factor) :
    (number ++ suffix).takeWhile isNumeralChar = number ∧
      (number ++ suffix).dropWhile isNumeralChar = suffix := by
  have stops := scaled.takeWhile
  have rest : suffix.dropWhile isNumeralChar = suffix := by
    have parts : suffix.takeWhile isNumeralChar ++ suffix.dropWhile isNumeralChar = suffix :=
      List.takeWhile_append_dropWhile
    rwa [stops, List.nil_append] at parts
  rw [List.takeWhile_append_of_pos numeric, List.dropWhile_append_of_pos numeric, stops, rest,
    List.append_nil]
  exact ⟨rfl, rfl⟩

theorem isNumeralChar_of_signed {sign number : List Char} {negative : Bool} {value : ℚ}
    (signed : Sign sign negative) (counted : Unsigned number value) :
    ∀ c ∈ sign ++ number, isNumeralChar c = true := by
  intro c member
  rcases List.mem_append.mp member with front | back
  · exact signed.isNumeralChar c front
  · exact counted.isNumeralChar c back

theorem reads_of_denotes {text : List Char} {amount : Amount} (denoted : Denotes text amount) :
    ∃ numeral scale, Numeral.ofText? (text.takeWhile isNumeralChar) = some numeral ∧
      Scale.ofSuffix? (text.dropWhile isNumeralChar) = some scale ∧
      amount = ⟨numeral.negative, numeral.value * scale.factor⟩ := by
  obtain ⟨signed, counted, scaled⟩ := denoted
  obtain ⟨front, back⟩ := cut_before_suffix (isNumeralChar_of_signed signed counted) scaled
  obtain ⟨numeral, read, rfl, rfl⟩ := ofText?_append signed counted
  obtain ⟨scale, scaling, rfl⟩ := ofSuffix?_of_factor scaled
  rw [front, back]
  exact ⟨numeral, scale, read, scaling, rfl⟩

theorem denotes_of_reads {text : List Char} {numeral : Numeral} {scale : Scale}
    (read : Numeral.ofText? (text.takeWhile isNumeralChar) = some numeral)
    (scaling : Scale.ofSuffix? (text.dropWhile isNumeralChar) = some scale) :
    Denotes text ⟨numeral.negative, numeral.value * scale.factor⟩ := by
  obtain ⟨sign, number, parts, signed, counted⟩ := ofText?_eq_some read
  have denoted := Denotes.mk signed counted (ofSuffix?_eq_some scaling)
  rwa [← parts, List.takeWhile_append_dropWhile] at denoted

theorem Denotes.unique {text : List Char} {amount other : Amount} (denoted : Denotes text amount)
    (again : Denotes text other) : amount = other := by
  obtain ⟨numeral, scale, read, scaling, rfl⟩ := reads_of_denotes denoted
  obtain ⟨numeral', scale', read', scaling', rfl⟩ := reads_of_denotes again
  rw [read] at read'
  rw [scaling] at scaling'
  cases read'
  cases scaling'
  rfl

/-! The magnitude is that of the exact number, rounded up. -/

theorem roundedUp_eq_ceil (amount : ℕ) {divisor : ℕ} (positive : 0 < divisor) :
    (((amount + divisor - 1) / divisor : ℕ) : ℤ) = ⌈(amount / divisor : ℚ)⌉ := by
  have scale : (0 : ℚ) < divisor := Nat.cast_pos.mpr positive
  have next : amount + divisor - 1 < ((amount + divisor - 1) / divisor + 1) * divisor :=
    Nat.lt_mul_of_div_lt (Nat.lt_succ_self _) positive
  have below : (amount + divisor - 1) / divisor * divisor ≤ amount + divisor - 1 :=
    Nat.div_mul_le_self _ _
  generalize (amount + divisor - 1) / divisor = quotient at next below ⊢
  symm
  rw [Int.ceil_eq_iff, lt_div_iff₀ scale, div_le_iff₀ scale, Int.cast_natCast]
  constructor
  · have strict : quotient * divisor < amount + divisor := by omega
    have cast : (quotient * divisor : ℚ) < amount + divisor := by exact_mod_cast strict
    linarith
  · have reached : amount ≤ quotient * divisor := by
      rw [Nat.succ_mul] at next
      omega
    exact_mod_cast reached

theorem powerOfTen?_eq_some {exponent power : ℕ} (fits : powerOfTen? exponent = some power) :
    power = 10 ^ exponent := by
  unfold powerOfTen? at fits
  split at fits
  · exact (Option.some.inj fits).symm
  · cases fits

theorem value_mul_factor (numeral : Numeral) (scale : Scale) :
    numeral.value * scale.factor * 10 ^ 9 =
      (Text.numeralValue (numeral.whole ++ numeral.fraction) * 2 ^ scale.two : ℕ) *
        (10 : ℚ) ^ (scale.ten + 9 - numeral.fraction.length) := by
  have ten : (10 : ℚ) ≠ 0 := by norm_num
  rw [Numeral.value_eq, Scale.factor, zpow_sub₀ ten, zpow_add₀ ten, zpow_natCast]
  push_cast
  field_simp
  norm_num

theorem ten_zpow_of_nonneg {exponent : ℤ} (up : 0 ≤ exponent) :
    (10 : ℚ) ^ exponent = (10 ^ exponent.toNat : ℕ) := by
  rw [Nat.cast_pow, ← zpow_natCast, Int.toNat_of_nonneg up]
  rfl

theorem magnitude?_eq_ceil {numeral : Numeral} {scale : Scale} {m : ℕ}
    (read : magnitude? numeral scale = some m) :
    (m : ℤ) = ⌈numeral.value * scale.factor * 10 ^ 9⌉ := by
  rw [value_mul_factor]
  unfold magnitude? at read
  obtain ⟨significand, counted, read⟩ := Option.bind_eq_some_iff.mp read
  obtain ⟨rfl, -⟩ := fitting?_eq_some counted
  obtain ⟨amount, shifted, read⟩ := Option.bind_eq_some_iff.mp read
  obtain ⟨rfl, -⟩ := fitting?_eq_some shifted
  rw [Nat.shiftLeft_eq] at read
  generalize scale.ten + 9 - (numeral.fraction.length : ℤ) = exponent at read ⊢
  generalize Text.numeralValue (numeral.whole ++ numeral.fraction) * 2 ^ scale.two = amount
    at read ⊢
  split at read
  · rename_i up
    obtain ⟨power, taken, read⟩ := Option.bind_eq_some_iff.mp read
    obtain rfl := powerOfTen?_eq_some taken
    obtain ⟨rfl, -⟩ := fitting?_eq_some read
    rw [ten_zpow_of_nonneg up, ← Nat.cast_mul, Int.ceil_natCast]
  · rename_i down
    obtain ⟨divisor, taken, read⟩ := Option.bind_eq_some_iff.mp read
    obtain rfl := powerOfTen?_eq_some taken
    obtain rfl := Option.some.inj read
    have exact : (10 : ℚ) ^ exponent = ((10 ^ (-exponent).toNat : ℕ) : ℚ)⁻¹ := by
      rw [← ten_zpow_of_nonneg (by omega), zpow_neg, inv_inv]
    rw [exact, ← div_eq_mul_inv]
    exact roundedUp_eq_ceil amount (Nat.pow_pos (by decide))

/-- A text that is read as a number is a quantity, and the number is its amount; a text that is no
    quantity is not read. -/
theorem nanos?_sound (quantity : Quantity) :
    (∀ n, quantity.nanos? = some n →
      (∃ amount, Denotes (Text.trim quantity.text.toList) amount) ∧
      ∀ amount, Denotes (Text.trim quantity.text.toList) amount → n = amount.nanos) ∧
    ((¬∃ amount, Denotes (Text.trim quantity.text.toList) amount) → quantity.nanos? = none) := by
  have denoted : ∀ n, quantity.nanos? = some n →
      ∃ amount, Denotes (Text.trim quantity.text.toList) amount ∧ n = amount.nanos := by
    intro n read
    unfold nanos? nanosOf? at read
    obtain ⟨numeral, counted, read⟩ := Option.bind_eq_some_iff.mp read
    obtain ⟨scale, scaled, read⟩ := Option.bind_eq_some_iff.mp read
    obtain ⟨magnitude, measured, read⟩ := Option.bind_eq_some_iff.mp read
    refine ⟨_, denotes_of_reads counted scaled, ?_⟩
    rw [Amount.nanos, ← magnitude?_eq_ceil measured]
    exact (Option.some.inj read).symm
  constructor
  · intro n read
    obtain ⟨amount, found, exact⟩ := denoted n read
    refine ⟨⟨amount, found⟩, fun other again => ?_⟩
    rw [exact, found.unique again]
  · intro absent
    cases read : quantity.nanos? with
    | none => rfl
    | some n =>
      obtain ⟨amount, found, -⟩ := denoted n read
      exact absurd ⟨amount, found⟩ absent

example : nanos? ⟨" -1.5Ki"⟩ = some (-1536000000000) := by decide

end Quantity

end AutoscalerOperator
