import AutoscalerOperator.Proofs.Text.Numeral
import AutoscalerOperator.Quantity

namespace AutoscalerOperator

namespace Text

theorem trim_of_solid {text : List Char} (solid : ∀ c ∈ text, isBlank c = false) :
    trim text = text := by
  have kept {letters : List Char} (solid : ∀ c ∈ letters, isBlank c = false) :
      letters.dropWhile isBlank = letters := by
    cases letters with
    | nil => rfl
    | cons c rest => rw [List.dropWhile_cons, solid c List.mem_cons_self, if_neg Bool.false_ne_true]
  have back : text.reverse.dropWhile isBlank = text.reverse :=
    kept fun c member => solid c (List.mem_reverse.mp member)
  rw [trim, trimLeft, kept solid, trimRight, back, List.reverse_reverse]

end Text

namespace Quantity

theorem toList_toString (n : Int) :
    (toString n).toList = (if n < 0 then ['-'] else []) ++ Nat.toDigits 10 n.natAbs := by
  cases n with
  | ofNat n =>
    have whole : ¬(Int.ofNat n < 0) := by simp
    rw [if_neg whole]
    exact Nat.toList_repr
  | negSucc n =>
    have negative : Int.negSucc n < 0 := Int.negSucc_lt_zero n
    rw [if_pos negative]
    change ("-" ++ Nat.repr (n + 1)).toList = _
    rw [String.toList_append, Nat.toList_repr]
    rfl

theorem isDigit_of_mem {n : Nat} {c : Char} (member : c ∈ Nat.toDigits 10 n) : c.isDigit = true :=
  Nat.isDigit_of_mem_toDigits (by decide) (by decide) member

theorem splitSign_of_digits {digits : List Char} (all : ∀ c ∈ digits, c.isDigit = true) :
    splitSign digits = (false, digits) := by
  unfold splitSign
  split
  · cases all '-' List.mem_cons_self
  · cases all '+' List.mem_cons_self
  · rfl

theorem splitPoint_of_digits {digits : List Char} (all : ∀ c ∈ digits, c.isDigit = true) :
    splitPoint digits = (digits, []) := by
  have apart : ∀ c ∈ digits, (c != '.') = true := by
    intro c member
    refine bne_iff_ne.mpr ?_
    rintro rfl
    cases all '.' member
  have taken : (digits ++ []).takeWhile (· != '.') = digits ++ [] :=
    List.takeWhile_append_of_pos apart
  have dropped : (digits ++ []).dropWhile (· != '.') = [] := List.dropWhile_append_of_pos apart
  rw [List.append_nil] at taken dropped
  rw [splitPoint, taken, dropped, List.drop_nil]

theorem ofText?_toString (n : Int) :
    Numeral.ofText? (toString n).toList = some ⟨decide (n < 0), Nat.toDigits 10 n.natAbs, []⟩ := by
  have digits : ∀ c ∈ Nat.toDigits 10 n.natAbs, c.isDigit = true := fun _ => isDigit_of_mem
  have sign : splitSign (toString n).toList = (decide (n < 0), Nat.toDigits 10 n.natAbs) := by
    rw [toList_toString]
    by_cases negative : n < 0
    · rw [if_pos negative, decide_eq_true negative]
      rfl
    · rw [if_neg negative, decide_eq_false negative]
      exact splitSign_of_digits digits
  have there : Nat.toDigits 10 n.natAbs ≠ [] := Nat.toDigits_ne_nil
  simp only [Numeral.ofText?, sign, splitPoint_of_digits digits]
  simpa [there] using digits

theorem fitting?_eq_some {n m : Nat} (fits : fitting? n = some m) : m = n ∧ n < limit := by
  unfold fitting? at fits
  split at fits
  · exact ⟨(Option.some.inj fits).symm, by assumption⟩
  · cases fits

theorem magnitude?_whole {digits : List Char} (negative : Bool)
    (fits : Text.numeralValue digits < limit) :
    magnitude? ⟨negative, digits, []⟩ ⟨-9, 0⟩ = some (Text.numeralValue digits) := by
  have fitting : fitting? (Text.numeralValue digits) = some (Text.numeralValue digits) := if_pos fits
  have one : powerOfTen? 0 = some 1 := by decide
  simp [magnitude?, fitting, one]

theorem roundedUp_le (amount divisor : Nat) : (amount + divisor - 1) / divisor ≤ amount := by
  rcases Nat.eq_zero_or_pos divisor with rfl | positive
  · simp
  · have grown : amount ≤ amount * divisor := Nat.le_mul_of_pos_right amount positive
    have next : (amount + 1) * divisor = amount * divisor + divisor := Nat.succ_mul amount divisor
    have below : amount + divisor - 1 < (amount + 1) * divisor := by omega
    exact Nat.lt_succ_iff.mp ((Nat.div_lt_iff_lt_mul positive).mpr below)

theorem magnitude?_lt {numeral : Numeral} {scale : Scale} {m : Nat}
    (read : magnitude? numeral scale = some m) : m < limit := by
  unfold magnitude? at read
  obtain ⟨significand, -, read⟩ := Option.bind_eq_some_iff.mp read
  obtain ⟨amount, shifted, read⟩ := Option.bind_eq_some_iff.mp read
  obtain ⟨rfl, fits⟩ := fitting?_eq_some shifted
  split at read
  · obtain ⟨power, -, read⟩ := Option.bind_eq_some_iff.mp read
    obtain ⟨rfl, fits⟩ := fitting?_eq_some read
    exact fits
  · obtain ⟨divisor, -, read⟩ := Option.bind_eq_some_iff.mp read
    obtain rfl := Option.some.inj read
    exact Nat.lt_of_le_of_lt (roundedUp_le _ divisor) fits

theorem nanos?_toString {n : Int} (fits : n.natAbs < limit) :
    nanos? ⟨toString n ++ "n"⟩ = some n := by
  have text : (toString n ++ "n").toList = (toString n).toList ++ ['n'] := String.toList_append
  have letters : ∀ c ∈ (toString n).toList, c = '-' ∨ c.isDigit = true := by
    intro c member
    rw [toList_toString] at member
    rcases List.mem_append.mp member with sign | digit
    · split at sign
      · exact .inl (List.mem_singleton.mp sign)
      · cases sign
    · exact .inr (isDigit_of_mem digit)
  have numeral : ∀ c ∈ (toString n).toList, isNumeralChar c = true := by
    intro c member
    rcases letters c member with rfl | digit
    · rfl
    · simp [isNumeralChar, digit]
  have solid : ∀ c ∈ (toString n).toList ++ ['n'], Text.isBlank c = false := by
    intro c member
    rcases List.mem_append.mp member with member | last
    · rcases letters c member with rfl | digit
      · rfl
      · exact Text.isBlank_of_isDigit digit
    · rw [List.mem_singleton.mp last]
      rfl
  have front : ((toString n).toList ++ ['n']).takeWhile isNumeralChar = (toString n).toList := by
    rw [List.takeWhile_append_of_pos numeral]
    exact List.append_nil _
  have back : ((toString n).toList ++ ['n']).dropWhile isNumeralChar = ['n'] := by
    rw [List.dropWhile_append_of_pos numeral]
    rfl
  have value : Text.numeralValue (Nat.toDigits 10 n.natAbs) = n.natAbs :=
    Text.numeralValue_toDigits n.natAbs
  have magnitude : magnitude? ⟨decide (n < 0), Nat.toDigits 10 n.natAbs, []⟩ ⟨-9, 0⟩ =
      some n.natAbs := by
    have whole := magnitude?_whole (decide (n < 0)) (value.symm ▸ fits)
    rwa [value] at whole
  change nanosOf? (toString n ++ "n").toList = some n
  rw [text, nanosOf?, Text.trim_of_solid solid, front, back, ofText?_toString]
  change (magnitude? _ ⟨-9, 0⟩ >>= _) = _
  rw [magnitude]
  by_cases negative : n < 0
  · have signed : -(n.natAbs : Int) = n := by omega
    simp only [negative, decide_true]
    exact congrArg some signed
  · have signed : (n.natAbs : Int) = n := by omega
    simp only [negative, decide_false]
    exact congrArg some signed

theorem natAbs_nanos_lt {quantity : Quantity} {n : Int} (read : quantity.nanos? = some n) :
    n.natAbs < limit := by
  unfold nanos? nanosOf? at read
  obtain ⟨numeral, -, read⟩ := Option.bind_eq_some_iff.mp read
  obtain ⟨scale, -, read⟩ := Option.bind_eq_some_iff.mp read
  obtain ⟨magnitude, measured, read⟩ := Option.bind_eq_some_iff.mp read
  have fits := magnitude?_lt measured
  have signed := Option.some.inj read
  split at signed <;> omega

/-- Whether two texts denote one amount, or are the same text where neither denotes one. -/
def SameAmount (left right : Quantity) : Prop :=
  (∃ n, left.nanos? = some n ∧ right.nanos? = some n) ∨
    left.nanos? = none ∧ right.nanos? = none ∧ left = right

theorem canonical_of_nanos {quantity : Quantity} {n : Int} (read : quantity.nanos? = some n) :
    quantity.canonical = ⟨toString n ++ "n"⟩ := by
  rw [canonical, read]

theorem canonical_of_none {quantity : Quantity} (unread : quantity.nanos? = none) :
    quantity.canonical = quantity := by
  rw [canonical, unread]

theorem nanos?_canonical (quantity : Quantity) : quantity.canonical.nanos? = quantity.nanos? := by
  cases read : quantity.nanos? with
  | none => rw [canonical_of_none read, read]
  | some n => rw [canonical_of_nanos read, nanos?_toString (natAbs_nanos_lt read)]

theorem canonical_eq_iff {left right : Quantity} :
    left.canonical = right.canonical ↔ left.SameAmount right := by
  constructor
  · intro same
    have nanos : left.nanos? = right.nanos? := by
      rw [← nanos?_canonical left, same, nanos?_canonical]
    cases read : right.nanos? with
    | some n => exact .inl ⟨n, nanos.trans read, read⟩
    | none =>
      have unread := nanos.trans read
      rw [canonical_of_none unread, canonical_of_none read] at same
      exact .inr ⟨unread, read, same⟩
  · rintro (⟨n, read, other⟩ | ⟨-, -, rfl⟩)
    · rw [canonical_of_nanos read, canonical_of_nanos other]
    · rfl

end Quantity

end AutoscalerOperator
