import ApiAtlas.Number.Decimal
import Mathlib.Tactic.Positivity

/-! Doubles among the exact values. A count of units belongs to a double if it is a multiple of the step
at its size and not too large. Rounding gives only such counts and leaves them as they are, so that a
whole double and its integer part, rounded again, stand at the same place on the number line. -/
namespace ApiAtlas.Binary64

/-- A value that needs no rounding. -/
def Representable : Binary64 → Prop
  | .finite _ n => stepAt n ∣ n ∧ n < beyond
  | _ => True

variable {s : Bool} {n num den : Nat} {x y : Binary64}

theorem two_pow_pos (k : Nat) : 0 < Nat.pow 2 k := Nat.two_pow_pos k

theorem one_pos : 0 < one := by unfold one; generalize 1074 = k; exact two_pow_pos k

theorem beyond_pos : 0 < beyond := by unfold beyond; generalize 2098 = k; exact two_pow_pos k

seal one beyond

theorem stepAt_pos (q : Nat) : 0 < stepAt q := two_pow_pos _

/-- A count divided by the step at its size has no more than 53 binary digits. -/
theorem lt_stepAt_mul (q : Nat) : q < stepAt q * 2 ^ 53 := by
  calc q < 2 ^ (Nat.log2 q + 1) := Nat.lt_log2_self
    _ ≤ 2 ^ (Nat.log2 q - 52 + 53) := Nat.pow_le_pow_right (by decide) (by omega)
    _ = stepAt q * 2 ^ 53 := Nat.pow_add 2 _ 53

theorem roundDiv_le (num den : Nat) : roundDiv num den ≤ num / den + 1 := by
  unfold roundDiv
  dsimp only
  split <;> omega

theorem roundDiv_mul_self (positive : 0 < den) (q : Nat) : roundDiv (q * den) den = q := by
  unfold roundDiv
  rw [Nat.mul_div_cancel q positive, Nat.mul_mod_left]
  simp only [Nat.mul_zero]
  rw [if_neg (by omega)]

/-- Up to 53 binary digits before a power of two are the digits of a double. -/
theorem stepAt_dvd_mul_two_pow {digits k : Nat} (short : digits ≤ 2 ^ 53) :
    stepAt (digits * 2 ^ k) ∣ digits * 2 ^ k := by
  rcases Nat.eq_zero_or_pos digits with rfl | positive
  · simp
  rcases Nat.lt_or_eq_of_le short with short | rfl
  · have size : Nat.log2 (digits * 2 ^ k) ≤ k + 52 := by
      refine Nat.lt_succ_iff.mp ((Nat.log2_lt (by positivity)).mpr ?_)
      calc digits * 2 ^ k < 2 ^ 53 * 2 ^ k := Nat.mul_lt_mul_of_pos_right short (Nat.two_pow_pos k)
        _ = 2 ^ (k + 52).succ := by rw [← Nat.pow_add]; congr 1; omega
    exact (Nat.pow_dvd_pow 2 (by omega)).trans (Nat.dvd_mul_left _ _)
  · rw [← Nat.pow_add, stepAt, Nat.log2_two_pow]
    exact Nat.pow_dvd_pow 2 (by omega)

/-- What comes out of rounding is a double. -/
theorem representable_ofRatio (s : Bool) (num den : Nat) : (ofRatio s num den).Representable := by
  unfold ofRatio
  dsimp only
  split
  next => exact True.intro
  next inside =>
    refine ⟨stepAt_dvd_mul_two_pow ?_, Nat.lt_of_not_le inside⟩
    have digits : num / (den * stepAt (num / den)) < 2 ^ 53 := by
      rw [← Nat.div_div_eq_div_mul]
      exact Nat.div_lt_of_lt_mul (lt_stepAt_mul _)
    exact (roundDiv_le _ _).trans digits

/-- A double is left as it is. -/
theorem ofRatio_of_representable (t : Bool) (double : (Binary64.finite s n).Representable) :
    ofRatio t n 1 = .finite t n := by
  obtain ⟨⟨q, whole⟩, inside⟩ := double
  have same : roundDiv n (1 * stepAt (n / 1)) * stepAt (n / 1) = n := by
    rw [Nat.div_one, Nat.one_mul]
    calc roundDiv n (stepAt n) * stepAt n
        = roundDiv (q * stepAt n) (stepAt n) * stepAt n := by rw [Nat.mul_comm q, ← whole]
      _ = q * stepAt n := by rw [roundDiv_mul_self (stepAt_pos n)]
      _ = n := by rw [Nat.mul_comm, ← whole]
  simp only [ofRatio, same, Nat.not_le.mpr inside, if_false]

theorem ofRatio_zero (s : Bool) (den : Nat) : ofRatio s 0 den = .finite s 0 := by
  have units (d : Nat) : roundDiv 0 d = 0 := by simp [roundDiv]
  simp only [ofRatio, units, Nat.zero_mul, Nat.not_le.mpr beyond_pos, if_false]

theorem signed_zero (s : Bool) : signed s 0 = 0 := by cases s <;> rfl

theorem div_of_zero (s t : Bool) (positive : 0 < n) :
    (finite s 0).div (.finite t n) = .finite (s != t) 0 := by
  simp only [div, Nat.ne_of_gt positive, if_false, Nat.zero_mul, ofRatio_zero]

theorem mul_of_zero (s t : Bool) (n : Nat) : (finite s 0).mul (.finite t n) = .finite (s != t) 0 := by
  simp only [mul, Nat.zero_mul, ofRatio_zero]

theorem round_of_zero (s : Bool) : (finite s 0).round = .finite s 0 := by
  have positive := one_pos
  have half : (2 * 0 + one) / (2 * one) = 0 := Nat.div_eq_of_lt (by omega)
  rw [round, half, Nat.zero_mul]

theorem abs_sub_of_zeros (s t : Bool) : ((finite s 0).sub (.finite t 0)).abs = zero := by
  simp only [sub, add, neg, signed_zero, ofSigned, Int.add_zero, if_true]
  rfl

theorem representable_ofInt (n : Int) : (ofInt n).Representable := representable_ofRatio ..

/-- The same number, the two zeros not told apart. -/
def Same (x y : Binary64) : Prop := x = y ∨ ∃ s t, x = .finite s 0 ∧ y = .finite t 0

theorem Same.position (same : x.Same y) : x.position? = y.position? := by
  rcases same with rfl | ⟨s, t, rfl, rfl⟩
  · rfl
  · cases s <;> cases t <;> rfl

/-- The integer part of a whole double is the same number. -/
theorem same_ofInt_truncate (double : x.Representable) (whole : x.isWhole = true) :
    x.Same (ofInt x.truncate) := by
  cases x with
  | finite s n =>
    have parts : n / one * one = n :=
      Nat.div_mul_cancel (Nat.dvd_of_mod_eq_zero (by simpa [isWhole] using whole))
    have size : (signed s (n / one)).natAbs * one = n := by
      cases s <;> simp only [signed, if_true, Bool.false_eq_true, if_false, Int.natAbs_neg,
        Int.natAbs_natCast, parts]
    rw [truncate, ofInt, size, ofRatio_of_representable _ double]
    rcases Nat.eq_zero_or_pos n with rfl | positive
    · exact .inr ⟨_, _, rfl, rfl⟩
    · have nonzero : 0 < n / one :=
        Nat.div_pos (Nat.le_of_dvd positive ⟨n / one, by rw [Nat.mul_comm, parts]⟩) one_pos
      have sign : decide (signed s (n / one) < 0) = s := by
        cases s
        · exact decide_eq_false (Int.not_lt.mpr (Int.natCast_nonneg (n / one)))
        · exact decide_eq_true (by simp only [signed, if_true]; omega)
      exact .inl (by rw [sign])
  | _ => simp [isWhole] at whole

end ApiAtlas.Binary64
