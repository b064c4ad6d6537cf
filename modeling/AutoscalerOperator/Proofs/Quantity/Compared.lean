import AutoscalerOperator.Proofs.Json.Meaning
import AutoscalerOperator.Proofs.Quantity.Sound

namespace AutoscalerOperator

namespace Quantity

theorem canonical_canonical (quantity : Quantity) :
    quantity.canonical.canonical = quantity.canonical := by
  rw [canonical_eq_iff, SameAmount, nanos?_canonical]
  cases read : quantity.nanos? with
  | some n => exact .inl ⟨n, rfl, rfl⟩
  | none => exact .inr ⟨rfl, rfl, canonical_of_none read⟩

theorem ne_canonical {plain measured : Quantity} (unread : plain.nanos? = none)
    (read : measured.nanos? ≠ none) : plain ≠ measured.canonical := by
  rintro rfl
  rw [nanos?_canonical] at unread
  exact read unread

theorem semanticEq_iff_canonical (left right : Quantity) :
    left.semanticEq right = true ↔ left.canonical = right.canonical := by
  unfold Quantity.semanticEq Json.agree
  rw [decide_eq_true_iff]
  change some (Json.str left.canonical.text) = some (Json.str right.canonical.text) ↔ _
  rw [Option.some.injEq, Json.str.injEq, ← Quantity.mk.injEq]

/-- Quantities are compared by amount: a whole number of units is read back as written, so that the
    form in which amounts are compared is one of its own and no other text has it. -/
theorem compared_by_amount :
    (∀ n : ℤ, |n| < 2 ^ 127 → nanos? ⟨toString n ++ "n"⟩ = some n) ∧
    (∀ quantity : Quantity, quantity.canonical.canonical = quantity.canonical) ∧
    (∀ plain measured : Quantity, plain.nanos? = none → measured.nanos? ≠ none →
      plain ≠ measured.canonical) ∧
    ∀ left right : Quantity, left.semanticEq right = true ↔
      (∃ n, left.nanos? = some n ∧ right.nanos? = some n) ∨
        left.nanos? = none ∧ right.nanos? = none ∧ left.text = right.text := by
  refine ⟨?_, canonical_canonical, fun _ _ => ne_canonical, ?_⟩
  · intro n bound
    have fits : n.natAbs < limit := by
      have range : (n.natAbs : ℤ) < 2 ^ 127 := n.abs_eq_natAbs ▸ bound
      exact_mod_cast range
    exact nanos?_toString fits
  · intro left right
    rw [semanticEq_iff_canonical, canonical_eq_iff, SameAmount, ← Quantity.mk.injEq]

theorem greatest_amounts_compared :
    nanos? ⟨toString (2 ^ 127 - 1 : ℤ) ++ "n"⟩ = some (2 ^ 127 - 1) ∧
    nanos? ⟨toString (-(2 ^ 127 - 1) : ℤ) ++ "n"⟩ = some (-(2 ^ 127 - 1)) ∧
    (Quantity.mk "170141183460469231731687303715884105728n").canonical ≠
      (Quantity.mk "170141183460469231731687303715884105727n").canonical ∧
    (Quantity.mk "0.5").semanticEq ⟨"500m"⟩ = true := by
  obtain ⟨readBack, -, apart, compared⟩ := compared_by_amount
  refine ⟨readBack _ (by norm_num), readBack _ (by norm_num), ?_, ?_⟩
  · have unread : (Quantity.mk "170141183460469231731687303715884105728n").nanos? = none := by
      decide
    rw [canonical_of_none unread]
    exact apart _ _ unread (by decide)
  · exact (compared ⟨"0.5"⟩ ⟨"500m"⟩).mpr (.inl ⟨500000000, by decide, by decide⟩)

end Quantity

end AutoscalerOperator
