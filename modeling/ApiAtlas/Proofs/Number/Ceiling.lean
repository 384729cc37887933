import ApiAtlas.Proofs.Number.Exact
import ApiAtlas.Proofs.Number.Finite
import Mathlib.Data.Rat.Floor

/-! Whole numbers among the doubles. Up to 2⁵³ in size no whole number is rounded, so that the ceiling of a double of
that size is the ceiling of its value. -/
namespace ApiAtlas.Binary64

seal one beyond

variable {x : Binary64} {q : ℚ} {n : Int} {s : Bool} {k : Nat}

theorem representable_whole (s : Bool) (short : k ≤ 2 ^ 53) : (finite s (k * one)).Representable := by
  refine ⟨?_, ?_⟩
  · unfold one
    generalize 1074 = digits
    exact stepAt_dvd_mul_two_pow short
  · calc k * one ≤ 2 ^ 100 * one := Nat.mul_le_mul_right one (short.trans (by decide))
      _ < beyond := two_pow_mul_one_lt_beyond

theorem value?_whole (s : Bool) (k : Nat) : (finite s (k * one)).value? = some (signed s k : ℚ) := by
  have size : (signed s (k * one) : ℚ) = signed s k * one := by cases s <;> simp [signed]
  rw [value?, size, mul_div_cancel_right₀ _ one_rat_pos.ne']

/-- Whole numbers of at most 53 binary digits are not rounded. -/
theorem value?_ofInt (short : n.natAbs ≤ 2 ^ 53) : (ofInt n).value? = some (n : ℚ) := by
  have size : signed (decide (n < 0)) n.natAbs = n := by
    by_cases negative : n < 0
    · simp only [signed, negative, decide_true, if_true]
      omega
    · simp only [signed, negative, decide_false, Bool.false_eq_true, if_false]
      omega
  rw [ofInt, ofRatio_of_representable _ (representable_whole false short), value?_whole, size]

/-- A whole number of at most 53 binary digits is inside the range of a word. -/
theorem toWord_of_value? (whole : x.value? = some (n : ℚ)) (short : n.natAbs ≤ 2 ^ 53) : x.toWord = n := by
  obtain ⟨s, units, rfl, -⟩ := value?_eq_some_iff.mp whole
  have part : signed s (units / one) = n := (whole_of_value? whole).2
  rw [toWord, part]
  have low : (-Nat.pow 2 63 : Int) = -2 ^ 63 := by decide
  have high : (Nat.pow 2 63 - 1 : Int) = 2 ^ 63 - 1 := by decide
  omega

theorem natAbs_ceil_le (small : |q| ≤ 2 ^ 53) : ⌈q⌉.natAbs ≤ 2 ^ 53 := by
  obtain ⟨low, high⟩ := abs_le.mp small
  have upper : ⌈q⌉ ≤ 2 ^ 53 := Int.ceil_le.mpr (by exact_mod_cast high)
  have lower : -2 ^ 53 ≤ ⌈q⌉ := by
    have nearest : (-2 ^ 53 : ℚ) ≤ ⌈q⌉ := low.trans (Int.le_ceil q)
    exact_mod_cast nearest
  omega

/-- The ceiling of a double up to 2⁵³ in size is the ceiling of its value. -/
theorem value?_ceil (value : x.value? = some q) (small : |q| ≤ 2 ^ 53) : x.ceil.value? = some (⌈q⌉ : ℚ) := by
  have short := natAbs_ceil_le small
  obtain ⟨s, units, rfl, rfl⟩ := value?_eq_some_iff.mp value
  cases s with
  | true =>
    have up : ⌈((signed true units : Int) : ℚ) / one⌉ = signed true (units / one) := by
      rw [Rat.ceil_intCast_div_natCast]
      simp [signed]
    rw [ceil, value?_whole, up]
  | false =>
    have up : ⌈((signed false units : Int) : ℚ) / one⌉ = ((units + one - 1) / one : Nat) := by
      have unit := one_pos
      have rest := Nat.div_add_mod' (units + one - 1) one
      have remainder := Nat.mod_lt (units + one - 1) unit
      generalize (units + one - 1) / one = k at rest
      have above : (units : ℚ) ≤ k * one := by exact_mod_cast (by omega : units ≤ k * one)
      have below : (k * one : ℚ) < units + one := by exact_mod_cast (by omega : k * one < units + one)
      rw [Int.ceil_eq_iff, lt_div_iff₀ one_rat_pos, div_le_iff₀ one_rat_pos]
      simp only [signed, Bool.false_eq_true, if_false, Int.cast_natCast]
      exact ⟨by linarith, above⟩
    rw [up, Int.natAbs_natCast] at short
    rw [ceil, ofRatio_of_representable _ (representable_whole false short), value?_whole, up]
    rfl

end ApiAtlas.Binary64
