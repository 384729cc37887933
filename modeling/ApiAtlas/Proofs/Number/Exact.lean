import ApiAtlas.Json.Value
import ApiAtlas.Proofs.Number.Rounding
import Mathlib.Algebra.Order.Field.Rat
import Mathlib.Algebra.Order.Ring.Cast
import Mathlib.Data.Int.Cast.Lemmas

/-! Exact values. A finite double is a rational number, and so is a whole number; doubles compare as their values
do. A double whose value is a whole number is where that whole number is rounded to, so that numbers of one value
are never told apart, however they are stored. -/
namespace ApiAtlas

namespace Binary64

seal one beyond

def value? : Binary64 → Option ℚ
  | .finite s n => some (signed s n / one)
  | _ => none

variable {x y : Binary64} {p q : ℚ} {n : Int}

theorem value?_eq_some_iff : x.value? = some q ↔ ∃ s n, x = .finite s n ∧ q = signed s n / one := by
  cases x <;> simp [value?, eq_comm]

theorem isSome_value? (x : Binary64) : x.value?.isSome = x.isFinite := by cases x <;> rfl

theorem one_rat_pos : (0 : ℚ) < one := Nat.cast_pos.mpr one_pos

theorem value?_one : (finite false one).value? = some 1 := by
  simp [value?, signed, one_rat_pos.ne']

theorem lt_eq (left : x.value? = some p) (right : y.value? = some q) : x.lt y = decide (p < q) := by
  obtain ⟨s, m, rfl, rfl⟩ := value?_eq_some_iff.mp left
  obtain ⟨t, n, rfl, rfl⟩ := value?_eq_some_iff.mp right
  rw [lt_finite, decide_eq_decide, div_lt_div_iff_of_pos_right one_rat_pos, Int.cast_lt]

theorem le_eq (left : x.value? = some p) (right : y.value? = some q) : x.le y = decide (p ≤ q) := by
  obtain ⟨s, m, rfl, rfl⟩ := value?_eq_some_iff.mp left
  obtain ⟨t, n, rfl, rfl⟩ := value?_eq_some_iff.mp right
  rw [le_finite, decide_eq_decide, div_le_div_iff_of_pos_right one_rat_pos, Int.cast_le]

theorem eqv_eq (left : x.value? = some p) (right : y.value? = some q) : x.eqv y = decide (p = q) := by
  obtain ⟨s, m, rfl, rfl⟩ := value?_eq_some_iff.mp left
  obtain ⟨t, n, rfl, rfl⟩ := value?_eq_some_iff.mp right
  rw [eqv, position?_finite, position?_finite, decide_eq_decide, div_left_inj' one_rat_pos.ne', Int.cast_inj]

/-- A value stands at one place. -/
theorem position?_eq_of_value? (left : x.value? = some q) (right : y.value? = some q) :
    x.position? = y.position? := by
  have same := eqv_eq left right
  obtain ⟨s, m, rfl, -⟩ := value?_eq_some_iff.mp left
  obtain ⟨t, n, rfl, -⟩ := value?_eq_some_iff.mp right
  simpa [eqv] using same

/-- A double with a whole value has no fraction, and its integer part is that value. -/
theorem whole_of_value? (whole : x.value? = some (n : ℚ)) : x.isWhole = true ∧ x.truncate = n := by
  obtain ⟨s, units, rfl, same⟩ := value?_eq_some_iff.mp whole
  have size : n * one = signed s units := by
    rw [eq_div_iff one_rat_pos.ne'] at same
    exact_mod_cast same
  have parts : units = n.natAbs * one := by
    rw [← Int.natAbs_natCast one, ← Int.natAbs_mul, size]
    cases s <;> simp [signed]
  refine ⟨by simp [isWhole, parts], ?_⟩
  have positive : (one : Int) ≠ 0 := by exact_mod_cast one_pos.ne'
  refine Int.eq_of_mul_eq_mul_right positive ?_
  rw [size, truncate, parts, Nat.mul_div_cancel _ one_pos]
  cases s <;> simp [signed]

theorem isWhole_iff (finite : x.isFinite = true) : x.isWhole = true ↔ ∃ n : Int, x.value? = some (n : ℚ) := by
  refine ⟨fun whole => ?_, fun ⟨_, value⟩ => (whole_of_value? value).1⟩
  cases x with
  | finite s units =>
    obtain ⟨k, rfl⟩ : one ∣ units := Nat.dvd_of_mod_eq_zero (by simpa [isWhole] using whole)
    refine ⟨signed s k, ?_⟩
    have size : (signed s (one * k) : ℚ) = signed s k * one := by
      cases s <;> simp [signed, mul_comm]
    rw [value?, size, mul_div_cancel_right₀ _ one_rat_pos.ne']
  | _ => contradiction

/-- A whole number is rounded to the double of the same value, if there is one. -/
theorem position?_ofInt (double : x.Representable) (whole : x.value? = some (n : ℚ)) :
    (ofInt n).position? = x.position? := by
  obtain ⟨fractionless, rfl⟩ := whole_of_value? whole
  exact (same_ofInt_truncate double fractionless).position.symm

/-- Doubles in one place are equal. -/
theorem eqv_of_position? (same : x.position? = y.position?) (number : y ≠ .nan) : x.eqv y = true := by
  rw [eqv, same]
  cases y with
  | nan => contradiction
  | _ => simp [position?]

theorem ofInt_ne_nan (n : Int) : ofInt n ≠ .nan := by
  unfold ofInt ofRatio
  dsimp only
  split <;> exact nofun

end Binary64

namespace Number

def value? : Number → Option ℚ
  | .whole n => some n
  | .real x => x.value?

/-- A number as values hold them: a double among them is finite and needs no rounding. -/
def Genuine : Number → Prop
  | .whole _ => True
  | .real x => x.isFinite = true ∧ x.Representable

def equal (a b : Number) : Bool := decide (a.value? = b.value?)

variable {a b : Number} {q : ℚ}

theorem Genuine.exists_value (genuine : a.Genuine) : ∃ q, a.value? = some q := by
  cases a with
  | whole n => exact ⟨n, rfl⟩
  | real x => exact Option.isSome_iff_exists.mp ((Binary64.isSome_value? x).trans genuine.1)

theorem toBinary64_ne_nan (genuine : a.Genuine) : a.toBinary64 ≠ .nan := by
  cases a with
  | whole n => exact Binary64.ofInt_ne_nan n
  | real x =>
    rintro rfl
    exact Bool.false_ne_true genuine.1

/-- Numbers of one value stand at one place as doubles. -/
theorem position?_toBinary64 (left : a.Genuine) (right : b.Genuine) (same : a.value? = b.value?) :
    a.toBinary64.position? = b.toBinary64.position? := by
  cases a with
  | whole m =>
    cases b with
    | whole n =>
      obtain rfl : m = n := by simpa [value?] using same
      rfl
    | real y => exact Binary64.position?_ofInt right.2 same.symm
  | real x =>
    cases b with
    | whole n => exact (Binary64.position?_ofInt left.2 same).symm
    | real y =>
      obtain ⟨q, value⟩ := right.exists_value
      exact Binary64.position?_eq_of_value? (same.trans value) value

/-- Numbers of one value are the same double. -/
theorem eqv_toBinary64 (left : a.Genuine) (right : b.Genuine) (same : a.value? = b.value?) :
    a.toBinary64.eqv b.toBinary64 = true :=
  Binary64.eqv_of_position? (position?_toBinary64 left right same) (toBinary64_ne_nan right)

end Number
end ApiAtlas
