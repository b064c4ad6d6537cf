import Mathlib.Algebra.Group.Nat.Defs
import AutoscalerOperator.Text.Blank
import AutoscalerOperator.Text.Numeral

namespace AutoscalerOperator.Text

theorem numeralValue_toDigits (n : Nat) : numeralValue (Nat.toDigits 10 n) = n :=
  Nat.ofDigitChars_ten_toDigits

theorem toString_nat_injective {left right : Nat} (same : toString left = toString right) :
    left = right := by
  have digits : (Nat.repr left).toList = (Nat.repr right).toList := congrArg String.toList same
  rw [Nat.toList_repr, Nat.toList_repr] at digits
  rw [← numeralValue_toDigits left, digits, numeralValue_toDigits]

theorem isBlank_of_isDigit {c : Char} (digit : c.isDigit = true) : isBlank c = false := by
  obtain ⟨low, high⟩ := Char.isDigit_iff_toNat.mp digit
  change 48 ≤ c.toNat at low
  change c.toNat ≤ 57 at high
  simp only [isBlank, Bool.or_eq_false_iff, Bool.and_eq_false_iff, decide_eq_false_iff_not,
    beq_eq_false_iff_ne]
  omega

theorem toList_pushn (text : String) (c : Char) (n : Nat) :
    (text.pushn c n).toList = text.toList ++ List.replicate n c := by
  induction n with
  | zero => simp [String.pushn, Nat.repeat]
  | succ n ih =>
    change ((text.pushn c n).push c).toList = _
    rw [String.toList_push, ih, List.replicate_succ', List.append_assoc]

theorem toList_padded (width n : Nat) :
    (padded width n).toList =
      List.replicate (width - (Nat.toDigits 10 n).length) '0' ++ Nat.toDigits 10 n := by
  have digits : (toString n).toList = Nat.toDigits 10 n := Nat.toList_repr
  rw [padded, String.toList_append, toList_pushn, ← String.length_toList, digits]
  rfl

theorem isDigit_of_mem_padded {width n : Nat} {c : Char}
    (member : c ∈ (padded width n).toList) : c.isDigit = true := by
  rw [toList_padded, List.mem_append, List.mem_replicate] at member
  rcases member with ⟨-, rfl⟩ | digit
  · rfl
  · exact Nat.isDigit_of_mem_toDigits (by decide) (by decide) digit

theorem length_padded (width n : Nat) :
    (padded width n).toList.length = max width (Nat.toDigits 10 n).length := by
  rw [toList_padded, List.length_append, List.length_replicate]
  omega

theorem length_padded_of_lt {width n : Nat} (room : 0 < width) (fits : n < 10 ^ width) :
    (padded width n).toList.length = width := by
  rw [length_padded]
  exact Nat.max_eq_left ((Nat.length_toDigits_le_iff (by decide) room).mpr fits)

theorem padded_ne_nil (width n : Nat) : (padded width n).toList ≠ [] := by
  rw [toList_padded]
  exact List.append_ne_nil_of_right_ne_nil _ Nat.toDigits_ne_nil

theorem numeralValue_padded (width n : Nat) : numeralValue (padded width n).toList = n := by
  have zeros (count : Nat) (digits : List Char) :
      numeralValue (List.replicate count '0' ++ digits) = numeralValue digits := by
    induction count with
    | zero => rfl
    | succ count ih => exact ih
  rw [toList_padded, zeros, numeralValue_toDigits]

end AutoscalerOperator.Text
