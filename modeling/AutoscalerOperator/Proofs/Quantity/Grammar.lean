import AutoscalerOperator.Proofs.Quantity.Canonical
import Mathlib.Algebra.Order.Field.Rat
import Mathlib.Tactic.FieldSimp
import Mathlib.Tactic.NormNum
import Mathlib.Tactic.Ring

namespace AutoscalerOperator

namespace Quantity

/-! What quantities are written like and what they stand for, by exact numbers. -/

def digitValue (c : Char) : ℕ := c.toNat - '0'.toNat

def wholeValue : List Char → ℕ
  | [] => 0
  | c :: rest => digitValue c * 10 ^ rest.length + wholeValue rest

def fractionValue : List Char → ℚ
  | [] => 0
  | c :: rest => (digitValue c + fractionValue rest) / 10

def Digits (text : List Char) : Prop := ∀ c ∈ text, c.isDigit = true

inductive Sign : List Char → Bool → Prop
  | absent : Sign [] false
  | plus : Sign ['+'] false
  | minus : Sign ['-'] true

inductive Unsigned : List Char → ℚ → Prop
  | whole {digits : List Char} (filled : digits ≠ []) (all : Digits digits) :
    Unsigned digits (wholeValue digits)
  | pointed {whole fraction : List Char} (filled : whole ++ fraction ≠ [])
    (all : Digits (whole ++ fraction)) :
    Unsigned (whole ++ '.' :: fraction) (wholeValue whole + fractionValue fraction)

inductive WholeNumber : List Char → ℤ → Prop
  | mk {sign digits : List Char} {negative : Bool} (signed : Sign sign negative)
    (filled : digits ≠ []) (all : Digits digits) :
    WholeNumber (sign ++ digits) (if negative then -wholeValue digits else wholeValue digits)

def factors : List (List Char × ℚ) := [
  (['n'], 1 / 10 ^ 9), (['u'], 1 / 10 ^ 6), (['m'], 1 / 10 ^ 3), ([], 1), (['k'], 10 ^ 3),
  (['M'], 10 ^ 6), (['G'], 10 ^ 9), (['T'], 10 ^ 12), (['P'], 10 ^ 15), (['E'], 10 ^ 18),
  (['K', 'i'], 2 ^ 10), (['M', 'i'], 2 ^ 20), (['G', 'i'], 2 ^ 30), (['T', 'i'], 2 ^ 40),
  (['P', 'i'], 2 ^ 50), (['E', 'i'], 2 ^ 60)]

/-- A suffix: a name, or an exponent of ten in 32 bits. -/
inductive Factor : List Char → ℚ → Prop
  | named {suffix : List Char} {factor : ℚ} (listed : (suffix, factor) ∈ factors) :
    Factor suffix factor
  | exponent {letter : Char} {text : List Char} {n : ℤ} (marked : letter = 'e' ∨ letter = 'E')
    (written : WholeNumber text n) (low : -2 ^ 31 ≤ n) (high : n < 2 ^ 31) :
    Factor (letter :: text) (10 ^ n)

structure Amount where
  negative : Bool
  magnitude : ℚ

/-- What a text without blanks around it stands for. -/
inductive Denotes : List Char → Amount → Prop
  | mk {sign number suffix : List Char} {negative : Bool} {value factor : ℚ}
    (signed : Sign sign negative) (counted : Unsigned number value)
    (scaled : Factor suffix factor) :
    Denotes (sign ++ number ++ suffix) ⟨negative, value * factor⟩

/-! The value of digits, by place and in one go. -/

theorem foldl_digits (digits : List Char) (start : ℕ) :
    digits.foldl (fun n c => 10 * n + (c.toNat - '0'.toNat)) start =
      start * 10 ^ digits.length + wholeValue digits := by
  induction digits generalizing start with
  | nil => simp [wholeValue]
  | cons c rest ih =>
    rw [List.foldl_cons, ih, wholeValue, List.length_cons, digitValue]
    ring

theorem numeralValue_eq (digits : List Char) : Text.numeralValue digits = wholeValue digits := by
  rw [Text.numeralValue, foldl_digits, Nat.zero_mul, Nat.zero_add]

theorem wholeValue_append (whole fraction : List Char) :
    wholeValue (whole ++ fraction) =
      wholeValue whole * 10 ^ fraction.length + wholeValue fraction := by
  rw [← numeralValue_eq, Text.numeralValue, List.foldl_append, foldl_digits, ← Text.numeralValue,
    numeralValue_eq]

theorem fractionValue_eq (fraction : List Char) :
    fractionValue fraction = wholeValue fraction / 10 ^ fraction.length := by
  induction fraction with
  | nil => simp [fractionValue, wholeValue]
  | cons c rest ih =>
    rw [fractionValue, wholeValue, ih, List.length_cons]
    push_cast
    field_simp
    ring

/-! Reading finds the parts of a text that the grammar has. -/

theorem isNumeralChar_of_isDigit {c : Char} (digit : c.isDigit = true) : isNumeralChar c = true := by
  simp [isNumeralChar, digit]

theorem Sign.isNumeralChar {sign : List Char} {negative : Bool} (signed : Sign sign negative) :
    ∀ c ∈ sign, isNumeralChar c = true := by
  cases signed <;> simp [Quantity.isNumeralChar]

theorem Unsigned.letters {number : List Char} {value : ℚ} (counted : Unsigned number value) :
    ∀ c ∈ number, c.isDigit = true ∨ c = '.' := by
  intro c member
  cases counted with
  | whole filled all => exact .inl (all c member)
  | pointed filled all =>
    rcases List.mem_append.mp member with before | after
    · exact .inl (all c (List.mem_append_left _ before))
    · rcases List.mem_cons.mp after with rfl | after
      · exact .inr rfl
      · exact .inl (all c (List.mem_append_right _ after))

theorem Unsigned.isNumeralChar {number : List Char} {value : ℚ} (counted : Unsigned number value) :
    ∀ c ∈ number, isNumeralChar c = true := by
  intro c member
  rcases counted.letters c member with digit | rfl
  · exact isNumeralChar_of_isDigit digit
  · rfl

theorem sign_splitSign (text : List Char) :
    ∃ sign, text = sign ++ (splitSign text).2 ∧ Sign sign (splitSign text).1 := by
  unfold splitSign
  split
  · exact ⟨['-'], rfl, .minus⟩
  · exact ⟨['+'], rfl, .plus⟩
  · exact ⟨[], rfl, .absent⟩

theorem splitSign_append {sign rest : List Char} {negative : Bool} (signed : Sign sign negative)
    (bare : ∀ c ∈ rest, c ≠ '-' ∧ c ≠ '+') : splitSign (sign ++ rest) = (negative, rest) := by
  cases signed with
  | plus | minus => rfl
  | absent =>
    change splitSign rest = (false, rest)
    unfold splitSign
    split
    · exact absurd rfl (bare '-' List.mem_cons_self).1
    · exact absurd rfl (bare '+' List.mem_cons_self).2
    · rfl

theorem bare_of_isDigit {c : Char} (digit : c.isDigit = true) : c ≠ '-' ∧ c ≠ '+' := by
  constructor <;>
  · rintro rfl
    cases digit

theorem Unsigned.bare {number : List Char} {value : ℚ} (counted : Unsigned number value) :
    ∀ c ∈ number, c ≠ '-' ∧ c ≠ '+' := by
  intro c member
  rcases counted.letters c member with digit | rfl
  · exact bare_of_isDigit digit
  · decide

def Numeral.value (numeral : Numeral) : ℚ :=
  wholeValue numeral.whole + fractionValue numeral.fraction

theorem Numeral.value_eq (numeral : Numeral) :
    numeral.value = Text.numeralValue (numeral.whole ++ numeral.fraction) /
      10 ^ numeral.fraction.length := by
  rw [Numeral.value, fractionValue_eq, numeralValue_eq, wholeValue_append]
  push_cast
  field_simp

theorem splitPoint_pointed {whole fraction : List Char} (all : Digits whole) :
    splitPoint (whole ++ '.' :: fraction) = (whole, fraction) := by
  have apart : ∀ c ∈ whole, (c != '.') = true := by
    intro c member
    refine bne_iff_ne.mpr ?_
    rintro rfl
    cases all '.' member
  rw [splitPoint, List.takeWhile_append_of_pos apart, List.dropWhile_append_of_pos apart]
  simp

theorem unsigned_splitPoint {number : List Char}
    (filled : (splitPoint number).1 ++ (splitPoint number).2 ≠ [])
    (all : Digits ((splitPoint number).1 ++ (splitPoint number).2)) :
    Unsigned number (wholeValue (splitPoint number).1 + fractionValue (splitPoint number).2) := by
  have parts : number.takeWhile (· != '.') ++ number.dropWhile (· != '.') = number :=
    List.takeWhile_append_dropWhile
  cases rest : number.dropWhile (· != '.') with
  | nil =>
    rw [rest, List.append_nil] at parts
    have split : splitPoint number = (number, []) := by rw [splitPoint, parts, rest, List.drop_nil]
    rw [split, List.append_nil] at filled all
    rw [split, fractionValue, add_zero]
    exact .whole filled all
  | cons c fraction =>
    have point : c = '.' := by
      have stops := List.head?_dropWhile_not (· != '.') number
      rw [rest] at stops
      simpa using stops
    rw [point] at rest
    have split : splitPoint number = (number.takeWhile (· != '.'), fraction) := by
      rw [splitPoint, rest]
      rfl
    rw [rest] at parts
    rw [split] at filled all ⊢
    have pointed := Unsigned.pointed filled all
    rwa [parts] at pointed

theorem ofText?_eq_some {text : List Char} {numeral : Numeral}
    (read : Numeral.ofText? text = some numeral) :
    ∃ sign number, text = sign ++ number ∧ Sign sign numeral.negative ∧
      Unsigned number numeral.value := by
  obtain ⟨sign, whole, signed⟩ := sign_splitSign text
  refine ⟨sign, (splitSign text).2, whole, ?_⟩
  simp only [Numeral.ofText?] at read
  split at read
  · cases read
  · rename_i filled
    split at read
    · cases read
    · rename_i all
      cases read
      refine ⟨signed, unsigned_splitPoint ?_ ?_⟩
      · simpa using filled
      · simpa [Digits, or_imp, forall_and] using all

theorem ofText?_whole {sign digits : List Char} {negative : Bool} (signed : Sign sign negative)
    (filled : digits ≠ []) (all : Digits digits) :
    Numeral.ofText? (sign ++ digits) = some ⟨negative, digits, []⟩ := by
  have bare := splitSign_append signed fun c member => bare_of_isDigit (all c member)
  simp only [Numeral.ofText?, bare, splitPoint_of_digits all]
  simpa [filled, Digits] using all

theorem ofText?_pointed {sign whole fraction : List Char} {negative : Bool}
    (signed : Sign sign negative) (filled : whole ++ fraction ≠ [])
    (all : Digits (whole ++ fraction)) :
    Numeral.ofText? (sign ++ (whole ++ '.' :: fraction)) = some ⟨negative, whole, fraction⟩ := by
  have bare := splitSign_append signed (Unsigned.pointed filled all).bare
  have split : splitPoint (whole ++ '.' :: fraction) = (whole, fraction) :=
    splitPoint_pointed fun c member => all c (List.mem_append_left _ member)
  have nonempty : (whole.isEmpty && fraction.isEmpty) = false := by
    cases whole <;> cases fraction <;> simp_all
  have digits : (whole ++ fraction).all Char.isDigit = true := List.all_eq_true.mpr all
  simp only [Numeral.ofText?, bare, split]
  simp [nonempty, digits]

theorem ofText?_append {sign number : List Char} {negative : Bool} {value : ℚ}
    (signed : Sign sign negative) (counted : Unsigned number value) :
    ∃ numeral, Numeral.ofText? (sign ++ number) = some numeral ∧ numeral.negative = negative ∧
      numeral.value = value := by
  cases counted with
  | whole filled all =>
    exact ⟨_, ofText?_whole signed filled all, rfl, by simp [Numeral.value, fractionValue]⟩
  | pointed filled all => exact ⟨_, ofText?_pointed signed filled all, rfl, rfl⟩

theorem magnitude?_eq_some_iff {digits : List Char} {n : ℕ} :
    Text.signedNumeral?.magnitude? digits = some n ↔
      digits ≠ [] ∧ Digits digits ∧ wholeValue digits = n := by
  rw [Text.signedNumeral?.magnitude?, numeralValue_eq, Digits, ← List.all_eq_true]
  cases digits with
  | nil => simp
  | cons c rest => cases (c :: rest).all Char.isDigit <;> simp

theorem signedNumeral?_minus (digits : List Char) :
    Text.signedNumeral? ('-' :: digits) =
      (Text.signedNumeral?.magnitude? digits).map fun (n : ℕ) => -(n : ℤ) := by
  rw [Text.signedNumeral?]
  cases Text.signedNumeral?.magnitude? digits <;> rfl

theorem signedNumeral?_append {sign digits : List Char} {negative : Bool}
    (signed : Sign sign negative) (bare : ∀ c ∈ digits, c ≠ '-' ∧ c ≠ '+') :
    Text.signedNumeral? (sign ++ digits) = (Text.signedNumeral?.magnitude? digits).map
      fun (n : ℕ) => if negative then -(n : ℤ) else (n : ℤ) := by
  cases signed with
  | plus => rfl
  | minus => exact signedNumeral?_minus digits
  | absent =>
    change Text.signedNumeral? digits = _
    unfold Text.signedNumeral?
    split
    · exact absurd rfl (bare '-' List.mem_cons_self).1
    · exact absurd rfl (bare '+' List.mem_cons_self).2
    · rfl

theorem wholeNumber_of_magnitude {sign digits : List Char} {negative : Bool} {n : ℤ}
    (signed : Sign sign negative)
    (read : ((Text.signedNumeral?.magnitude? digits).map
      fun (n : ℕ) => if negative then -(n : ℤ) else (n : ℤ)) = some n) :
    WholeNumber (sign ++ digits) n := by
  obtain ⟨magnitude, found, rfl⟩ := Option.map_eq_some_iff.mp read
  obtain ⟨filled, all, rfl⟩ := magnitude?_eq_some_iff.mp found
  exact .mk signed filled all

theorem signedNumeral?_eq_some {text : List Char} {n : ℤ}
    (read : Text.signedNumeral? text = some n) : WholeNumber text n := by
  unfold Text.signedNumeral? at read
  split at read
  · exact wholeNumber_of_magnitude .minus ((signedNumeral?_minus _).symm.trans read)
  · exact wholeNumber_of_magnitude .plus read
  · exact wholeNumber_of_magnitude .absent read

theorem signedNumeral?_eq_some_iff {text : List Char} {n : ℤ} :
    Text.signedNumeral? text = some n ↔ WholeNumber text n := by
  constructor
  · exact signedNumeral?_eq_some
  · rintro ⟨signed, filled, all⟩
    rw [signedNumeral?_append signed fun c member => bare_of_isDigit (all c member),
      magnitude?_eq_some_iff.mpr ⟨filled, all, rfl⟩]
    rfl

theorem int32?_eq_some {text : List Char} {n : Int32} (read : Text.int32? text = some n) :
    WholeNumber text n.toInt := by
  obtain ⟨m, numeral, fits⟩ := Option.bind_eq_some_iff.mp read
  rw [Int32.toInt_minValue, Int32.toInt_maxValue] at fits
  split at fits
  · rename_i range
    cases fits
    rw [Int32.toInt_ofInt_of_le range.1 (Int.lt_of_le_sub_one range.2)]
    exact signedNumeral?_eq_some numeral
  · cases fits

theorem int32?_of_wholeNumber {text : List Char} {n : ℤ} (written : WholeNumber text n)
    (low : -2 ^ 31 ≤ n) (high : n < 2 ^ 31) : Text.int32? text = some (Int32.ofInt n) := by
  rw [Text.int32?, signedNumeral?_eq_some_iff.mpr written, Option.bind_some,
    Int32.toInt_minValue, Int32.toInt_maxValue]
  exact if_pos ⟨low, Int.le_sub_one_of_lt high⟩

def Scale.factor (scale : Scale) : ℚ := 10 ^ scale.ten * 2 ^ scale.two

theorem factor_of_int32? {letter : Char} {text : List Char} {scale : Scale}
    (marked : letter = 'e' ∨ letter = 'E')
    (read : (Text.int32? text).map (fun n => Scale.mk n.toInt 0) = some scale) :
    Factor (letter :: text) scale.factor := by
  obtain ⟨n, exponent, rfl⟩ := Option.map_eq_some_iff.mp read
  rw [Scale.factor, pow_zero, mul_one]
  exact .exponent marked (int32?_eq_some exponent) n.le_toInt n.toInt_lt

theorem ofSuffix?_eq_some {suffix : List Char} {scale : Scale}
    (read : Scale.ofSuffix? suffix = some scale) : Factor suffix scale.factor := by
  unfold Scale.ofSuffix? at read
  split at read
  case h_17 => exact factor_of_int32? (.inl rfl) read
  case h_18 => exact factor_of_int32? (.inr rfl) read
  case h_19 => cases read
  all_goals
    cases read
    exact .named (by norm_num [factors, Scale.factor])

theorem WholeNumber.head {text : List Char} {n : ℤ} (written : WholeNumber text n) :
    ∃ c rest, text = c :: rest ∧ Quantity.isNumeralChar c = true := by
  obtain ⟨signed, filled, all⟩ := written
  rename_i sign digits negative
  cases signed with
  | plus => exact ⟨'+', digits, rfl, rfl⟩
  | minus => exact ⟨'-', digits, rfl, rfl⟩
  | absent =>
    obtain ⟨c, rest, rfl⟩ := List.exists_cons_of_ne_nil filled
    exact ⟨c, rest, rfl, isNumeralChar_of_isDigit (all c List.mem_cons_self)⟩

theorem ofSuffix?_of_exponent {letter : Char} {text : List Char} {n : ℤ}
    (marked : letter = 'e' ∨ letter = 'E') (written : WholeNumber text n) (low : -2 ^ 31 ≤ n)
    (high : n < 2 ^ 31) : Scale.ofSuffix? (letter :: text) = some ⟨n, 0⟩ := by
  have read : (Text.int32? text).map (fun n => Scale.mk n.toInt 0) = some ⟨n, 0⟩ := by
    rw [int32?_of_wholeNumber written low high, Option.map_some, Int32.toInt_ofInt_of_le low high]
  -- An `E` alone and `Ei` are names of their own, and neither leaves a number.
  obtain ⟨c, rest, rfl, numeral⟩ := written.head
  have other : c ≠ 'i' := by
    rintro rfl
    cases numeral
  rcases marked with rfl | rfl
  · exact read
  · rw [← read]
    simp [Scale.ofSuffix?, other]

theorem ofSuffix?_of_factor {suffix : List Char} {factor : ℚ} (scaled : Factor suffix factor) :
    ∃ scale, Scale.ofSuffix? suffix = some scale ∧ scale.factor = factor := by
  cases scaled with
  | named listed =>
    have all : ∀ named ∈ factors, ∃ scale, Scale.ofSuffix? named.1 = some scale ∧
        scale.factor = named.2 := by
      simp [factors, Scale.ofSuffix?, Scale.factor]
    exact all _ listed
  | exponent marked written low high =>
    refine ⟨_, ofSuffix?_of_exponent marked written low high, ?_⟩
    rw [Scale.factor, pow_zero, mul_one]

theorem Factor.takeWhile {suffix : List Char} {factor : ℚ} (scaled : Factor suffix factor) :
    suffix.takeWhile Quantity.isNumeralChar = [] := by
  cases scaled with
  | named listed =>
    have all : ∀ named ∈ factors, named.1.takeWhile Quantity.isNumeralChar = [] := by decide
    exact all _ listed
  | exponent marked => rcases marked with rfl | rfl <;> rfl

end Quantity

end AutoscalerOperator
