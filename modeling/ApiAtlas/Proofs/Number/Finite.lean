import ApiAtlas.Proofs.Number.Rounding

/-! Which results are finite. Rounding at most doubles a count of units and at most halves it, so that only
results near the end of the range can leave it: words of 64 bits stay finite, and so do their quotients by
powers of ten. -/
namespace ApiAtlas.Binary64

seal one beyond

variable {s t : Bool} {num den m n bound : Nat} {x y : Binary64}

theorem stepAt_le {q : Nat} (positive : 0 < q) : stepAt q ≤ q :=
  calc 2 ^ (Nat.log2 q - 52) ≤ 2 ^ Nat.log2 q := Nat.pow_le_pow_right (by decide) (by omega)
    _ ≤ q := Nat.log2_self_le positive.ne'

theorem stepAt_le_succ (q : Nat) : stepAt q ≤ q + 1 := by
  rcases Nat.eq_zero_or_pos q with rfl | positive
  · decide
  · exact Nat.le_succ_of_le (stepAt_le positive)

def Within (bound : Nat) (x : Binary64) : Prop := ∃ s n, x = .finite s n ∧ n ≤ bound

theorem Within.isFinite (within : x.Within bound) : x.isFinite = true := by
  obtain ⟨s, n, rfl, -⟩ := within
  rfl

/-- Rounding adds no more than a step. -/
theorem within_ofRatio (small : 2 * (num / den) + 1 < beyond) :
    (ofRatio s num den).Within (2 * (num / den) + 1) := by
  have rounded : roundDiv num (den * stepAt (num / den)) * stepAt (num / den) ≤ 2 * (num / den) + 1 := by
    have step := stepAt_le_succ (num / den)
    generalize stepAt (num / den) = k at step ⊢
    calc roundDiv num (den * k) * k ≤ (num / (den * k) + 1) * k := Nat.mul_le_mul_right k (roundDiv_le _ _)
      _ = num / den / k * k + k := by rw [Nat.add_one_mul, Nat.div_div_eq_div_mul]
      _ ≤ num / den + (num / den + 1) := Nat.add_le_add (Nat.div_mul_le_self _ k) step
      _ = 2 * (num / den) + 1 := by omega
  have inside := Nat.not_le.mpr (rounded.trans_lt small)
  exact ⟨s, _, by simp only [ofRatio, inside, if_false], rounded⟩

theorem le_roundDiv (num den : Nat) : num / den ≤ roundDiv num den := by
  unfold roundDiv
  dsimp only
  split <;> omega

/-- Rounding takes away no more than half. -/
theorem le_two_mul_of_ofRatio (rounded : ofRatio s num den = .finite t n) : num / den ≤ 2 * n := by
  rcases Nat.eq_zero_or_pos (num / den) with none | positive
  · omega
  simp only [ofRatio] at rounded
  split at rounded
  · contradiction
  obtain ⟨-, rfl⟩ := Binary64.finite.inj rounded
  have step := stepAt_le positive
  have large := stepAt_pos (num / den)
  generalize stepAt (num / den) = k at step large ⊢
  have once : 1 * k ≤ num / den / k * k := Nat.mul_le_mul_right k (Nat.div_pos step large)
  have rest := Nat.div_add_mod' (num / den) k
  have remainder := Nat.mod_lt (num / den) large
  calc num / den ≤ 2 * (num / den / k * k) := by omega
    _ ≤ 2 * (roundDiv num (den * k) * k) := by
      rw [Nat.div_div_eq_div_mul]
      exact Nat.mul_le_mul_left 2 (Nat.mul_le_mul_right k (le_roundDiv _ _))

/-- Far more units than a word of 64 bits has are still finite. -/
theorem two_pow_mul_one_lt_beyond : 2 ^ 100 * one < beyond := by
  have larger : 100 + 1074 < 2098 := by decide
  unfold one beyond
  generalize 100 = a, 1074 = b, 2098 = c at larger ⊢
  calc 2 ^ a * 2 ^ b = 2 ^ (a + b) := (Nat.pow_add 2 a b).symm
    _ < 2 ^ c := Nat.pow_lt_pow_right (by decide) larger

theorem within_ofInt {i : Int} (small : i.natAbs ≤ 2 ^ 64) : (ofInt i).Within (2 ^ 66 * one) := by
  have room := two_pow_mul_one_lt_beyond
  have unit := one_pos
  have units : i.natAbs * one ≤ 2 ^ 64 * one := Nat.mul_le_mul_right one small
  obtain ⟨s, n, same, bound⟩ : (ofRatio (decide (i < 0)) (i.natAbs * one) 1).Within _ :=
    within_ofRatio (by omega)
  exact ⟨s, n, same, by omega⟩

/-- Division by a double that is not less than one half. -/
theorem within_div (within : x.Within m) (large : ∀ t n, y = .finite t n → one ≤ 2 * n)
    (number : y ≠ .nan) (room : 4 * m + 1 < beyond) : (x.div y).Within (4 * m + 1) := by
  obtain ⟨s, k, rfl, small⟩ := within
  cases y with
  | finite t n =>
    have half := large t n rfl
    have unit := one_pos
    have nonzero : n ≠ 0 := by omega
    have quotient : k * one / n ≤ 2 * k := by
      refine (Nat.div_le_iff_le_mul_add_pred (Nat.pos_of_ne_zero nonzero)).mpr ?_
      calc k * one ≤ k * (2 * n) := Nat.mul_le_mul_left k half
        _ = n * (2 * k) := by rw [Nat.mul_comm, Nat.mul_comm 2 n, Nat.mul_assoc]
        _ ≤ n * (2 * k) + (n - 1) := Nat.le_add_right _ _
    simp only [div, nonzero, if_false]
    obtain ⟨t, l, same, bound⟩ : (ofRatio (s != t) (k * one) n).Within _ := within_ofRatio (by omega)
    exact ⟨t, l, same, by omega⟩
  | infinite t => exact ⟨s != t, 0, rfl, Nat.zero_le _⟩
  | nan => exact absurd rfl number

end ApiAtlas.Binary64
