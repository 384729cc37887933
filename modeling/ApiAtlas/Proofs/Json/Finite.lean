import ApiAtlas.Json.Reader
import ApiAtlas.Proofs.Tree.Finite

/-! The numbers in a JSON text are finite. A numeral becomes a word of 64 bits, or a double that is checked
when it is scaled up and bounded when it is scaled down; the machine that builds the collections puts trees
together and makes none of its own. -/
namespace ApiAtlas.Json

open Binary64

namespace Numeral

seal one beyond

variable {n : Nat} {x y : Binary64}

theorem absorb_lt (small : n < 2 ^ 64) (cs : List Char) : (absorb n cs).1 < 2 ^ 64 := by
  induction cs generalizing n with
  | nil => exact small
  | cons c rest ih =>
    simp only [absorb]
    split
    next fits => exact ih fits
    next => exact small

/-- A power of ten inside the range is not less than one half. -/
theorem one_le_power {e : Nat} (range : e ≤ 400) {t : Bool} {units : Nat}
    (same : power e = .finite t units) : one ≤ 2 * units := by
  have rounded : ofRatio false (1 * 10 ^ e * one) 1 = .finite t units := by
    have below : ¬ (400 < (e : Int)) := by omega
    have whole : ¬ ((e : Int) < 0) := by omega
    simpa [power, ofDecimal, below, whole] using same
  have bound := le_two_mul_of_ofRatio rounded
  have least : 1 * one ≤ 1 * 10 ^ e * one := by
    rw [Nat.one_mul (10 ^ e)]
    exact Nat.mul_le_mul_right one (Nat.one_le_pow e 10 (by decide))
  rw [Nat.div_one] at bound
  omega

theorem power_ne_nan (e : Nat) : power e ≠ .nan := by
  have ratio (s : Bool) (num den : Nat) : ofRatio s num den ≠ .nan := by
    unfold ofRatio
    dsimp only
    split <;> simp
  unfold power ofDecimal
  repeat' split
  all_goals first | exact ratio _ _ _ | simp

theorem isFinite_scale {e : Int} (within : x.Within (2 ^ 66 * one)) (scaled : scale x e = some y) :
    y.isFinite = true := by
  have room := two_pow_mul_one_lt_beyond
  have unit := one_pos
  unfold scale at scaled
  split at scaled
  · exact Option.some.inj scaled ▸ within.isFinite
  split at scaled
  · contradiction
  split at scaled
  · dsimp only at scaled
    split at scaled
    next finite => exact Option.some.inj scaled ▸ finite
    next => contradiction
  have divided {m : Nat} {x : Binary64} (within : x.Within m) (small : 4 * m + 1 < beyond) {e : Nat}
      (range : e ≤ 400) : (x.div (power e)).Within (4 * m + 1) :=
    within_div within (fun _ _ => one_le_power range) (power_ne_nan e) small
  split at scaled
  · exact Option.some.inj scaled ▸ (divided within (by omega) (by omega)).isFinite
  split at scaled
  · have first := divided within (by omega) (show 308 ≤ 400 by decide)
    exact Option.some.inj scaled ▸ (divided first (by omega) (by omega)).isFinite
  · exact Option.some.inj scaled ▸ rfl

theorem isFinite_neg (finite : x.isFinite = true) : x.neg.isFinite = true := by
  cases x with
  | finite s n => rfl
  | _ => contradiction

theorem isFinite_signed (negative : Bool) {x : Binary64} (finite : x.isFinite = true) :
    Tree.isFinite (.num (.real (if negative then x.neg else x))) = true := by
  rw [Tree.isFinite_real]
  split
  · exact isFinite_neg finite
  · exact finite

theorem isFinite_value (negative : Bool) (digits : List Char) (fraction : Option (List Char))
    (exponent : Option Int) : (value negative digits fraction exponent).isFinite = true := by
  -- The scaling becomes a variable, lest it be evaluated where pairs are taken apart.
  obtain ⟨scaling, same⟩ : ∃ scaling, scaling = scale := ⟨_, rfl⟩
  have ofWord {n : Nat} (small : n < 2 ^ 64) : (ofInt n).Within (2 ^ 66 * one) := within_ofInt (by omega)
  have scaled {n : Nat} {e : Int} {x : Binary64} (small : n < 2 ^ 64) (found : scaling (ofInt n) e = some x) :
      Tree.isFinite (.num (.real (if negative then x.neg else x))) = true :=
    isFinite_signed negative (isFinite_scale (ofWord small) (same ▸ found))
  have small := absorb_lt (show 0 < 2 ^ 64 by decide) digits
  rw [value, ← same]
  generalize absorb 0 digits = read at small ⊢
  obtain ⟨n, count, left⟩ := read
  dsimp only at small ⊢
  split
  · split
    · split
      next found => exact scaled small found
      next => rfl
    split
    · rw [Tree.isFinite_num, Number.isFinite_whole (by simp [Number.inRange]; omega)]
    split
    · rw [Tree.isFinite_real, isFinite_neg (ofWord small).isFinite]
    next inside =>
      rw [Tree.isFinite_num, Number.isFinite_whole (by simp [Number.inRange] at inside ⊢; omega)]
  · split
    next found => exact scaled (absorb_lt small _) found
    next => rfl

theorem isFinite_read? {cs rest : List Char} {t : Tree} (read : read? cs = some (t, rest)) :
    t.isFinite = true := by
  unfold read? at read
  split at read
  all_goals
    rcases ite_eq_iff.mp read with ⟨-, same⟩ | ⟨-, read⟩
    · contradiction
    split at read
    · rcases ite_eq_iff.mp read with ⟨-, same⟩ | ⟨-, read⟩
      · contradiction
      · obtain ⟨_, -, same⟩ := Option.map_eq_some_iff.mp read
        cases same
        exact isFinite_value ..
    · obtain ⟨_, -, same⟩ := Option.map_eq_some_iff.mp read
      cases same
      exact isFinite_value ..

end Numeral

theorem Quoted.isFinite_read? {cs rest : List Char} {t : Tree} (read : read? cs = some (t, rest)) :
    t.isFinite = true := by
  obtain ⟨⟨pieces, behind⟩, -, same⟩ := Option.map_eq_some_iff.mp read
  dsimp only at same
  split at same <;> cases same <;> rfl

namespace Token

/-- The tree in a token, if there is one, is finite. -/
def Finite : Token → Prop
  | .scalar t | .quoted t => t.isFinite = true
  | _ => True

theorem finite_word? {w : String} {u : Tree} {cs rest : List Char} {t : Token}
    (finite : u.isFinite = true) (read : word? w u cs = some (t, rest)) : t.Finite := by
  obtain ⟨_, -, same⟩ := Option.map_eq_some_iff.mp read
  cases same
  exact finite

theorem finite_first? {cs rest : List Char} {t : Token} (read : first? cs = some (t, rest)) :
    t.Finite := by
  unfold first? at read
  split at read
  case h_7 =>
    obtain ⟨⟨u, _⟩, quoted, same⟩ := Option.map_eq_some_iff.mp read
    cases same
    exact Quoted.isFinite_read? quoted
  case h_8 | h_9 | h_10 => exact finite_word? rfl read
  case h_11 =>
    obtain ⟨⟨u, _⟩, scalar, same⟩ := Option.map_eq_some_iff.mp read
    cases same
    exact Numeral.isFinite_read? scalar
  all_goals
    cases read
    exact True.intro

theorem finite_cut? {fuel : Nat} {cs : List Char} {ts : List Token} (read : cut? fuel cs = some ts) :
    ∀ t ∈ ts, t.Finite := by
  induction fuel generalizing cs ts with
  | zero =>
    unfold cut? at read
    split at read
    · cases read
      exact nofun
    · contradiction
  | succ fuel ih =>
    unfold cut? at read
    split at read
    · cases read
      exact nofun
    · simp only [Option.bind_eq_bind, Option.bind_eq_some_iff, Option.pure_def, Option.some.injEq] at read
      obtain ⟨⟨t, rest⟩, first, us, others, rfl⟩ := read
      exact List.forall_mem_cons.mpr ⟨finite_first? first, ih others⟩

end Token

def Frame.Finite : Frame → Prop
  | .items done => ∀ t ∈ done, t.isFinite = true
  | .members done _ => ∀ m ∈ done, m.2.isFinite = true

namespace Machine

structure Finite (m : Machine) : Prop where
  stack : ∀ f ∈ m.stack, f.Finite
  result : ∀ t, m.result = some t → t.isFinite = true

theorem finite_start : start.Finite := ⟨nofun, nofun⟩

variable {stack : List Frame} {t : Tree}

theorem finite_put (frames : ∀ f ∈ stack, f.Finite) (finite : t.isFinite = true) : (put stack t).Finite := by
  unfold put
  split
  case h_1 => exact ⟨nofun, fun u same => Option.some.inj same ▸ finite⟩
  case h_2 =>
    obtain ⟨inside, behind⟩ := List.forall_mem_cons.mp frames
    exact ⟨List.forall_mem_cons.mpr ⟨List.forall_mem_cons.mpr ⟨finite, inside⟩, behind⟩, nofun⟩
  case h_3 =>
    obtain ⟨inside, behind⟩ := List.forall_mem_cons.mp frames
    exact ⟨List.forall_mem_cons.mpr ⟨List.forall_mem_cons.mpr ⟨finite, inside⟩, behind⟩, nofun⟩

theorem finite_close (frames : ∀ f ∈ stack, f.Finite) (finite : t.isFinite = true) :
    (close stack t).Finite := by
  refine finite_put frames ?_
  split
  · rfl
  · exact finite

/-- A step keeps what lies in the stack, or puts the value of its token there. -/
theorem Finite.step {m n : Machine} {t : Token} (before : m.Finite) (finite : t.Finite)
    (stepped : m.step t = some n) : n.Finite := by
  have frames := before.stack
  unfold Machine.step at stepped
  split at stepped
  case h_1 | h_2 | h_3 | h_4 => exact Option.some.inj stepped ▸ finite_put frames finite
  case h_5 | h_6 | h_7 | h_8 =>
    obtain rfl := Option.some.inj stepped
    exact ⟨List.forall_mem_cons.mpr ⟨nofun, frames⟩, nofun⟩
  case h_9 outer _ same | h_16 outer _ same =>
    obtain ⟨inside, behind⟩ := List.forall_mem_cons.mp (same ▸ frames)
    exact Option.some.inj stepped ▸ finite_close behind
      (Tree.isFinite_list.mpr fun t member => inside t (List.mem_reverse.mp member))
  case h_10 outer _ same | h_17 outer _ same =>
    obtain ⟨inside, behind⟩ := List.forall_mem_cons.mp (same ▸ frames)
    exact Option.some.inj stepped ▸ finite_close behind
      (Tree.isFinite_record.mpr fun m member => inside m (List.mem_reverse.mp member))
  case h_11 same | h_12 same | h_14 same | h_15 same =>
    obtain rfl := Option.some.inj stepped
    obtain ⟨inside, behind⟩ := List.forall_mem_cons.mp (same ▸ frames)
    exact ⟨List.forall_mem_cons.mpr ⟨inside, behind⟩, nofun⟩
  case h_13 =>
    obtain rfl := Option.some.inj stepped
    exact ⟨frames, nofun⟩
  case h_18 => contradiction

theorem Finite.run {m n : Machine} {ts : List Token} (before : m.Finite) (finite : ∀ t ∈ ts, t.Finite)
    (ran : ts.foldlM Machine.step m = some n) : n.Finite := by
  induction ts generalizing m with
  | nil =>
    cases ran
    exact before
  | cons t ts ih =>
    obtain ⟨first, others⟩ := List.forall_mem_cons.mp finite
    obtain ⟨next, stepped, ran⟩ := Option.bind_eq_some_iff.mp ran
    exact ih (before.step first stepped) others ran

end Machine

theorem isFinite_readTree? {bytes : List Char} {t : Tree} (read : readTree? bytes = some t) :
    t.isFinite = true := by
  obtain ⟨ts, cut, read⟩ := Option.bind_eq_some_iff.mp read
  obtain ⟨m, ran, read⟩ := Option.bind_eq_some_iff.mp read
  have final := Machine.finite_start.run (Token.finite_cut? cut) ran
  split at read
  · exact final.result t read
  · contradiction

end ApiAtlas.Json
