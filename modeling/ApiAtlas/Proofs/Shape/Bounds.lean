import ApiAtlas.Proofs.Number.Exact
import ApiAtlas.Shape.Check
import ApiAtlas.Shape.Lower

/-! Bounds of numbers. At each end a schema may state a bound, and with it a second bound that is not to be reached, or
a flag that the first one is not; a node keeps the stricter of the two. A number is refused at an end exactly if it
violates one of the requirements that are stated for it. -/
namespace ApiAtlas.Shape

inductive Side where
  | lower
  | upper

namespace Side

def inclusive (k : Keywords) : Side → Option Binary64
  | lower => k.minimum
  | upper => k.maximum

/-- The bound that is not to be reached, or the flag. -/
def exclusive (k : Keywords) : Side → Option ExclusiveBound
  | lower => k.exclusiveMinimum
  | upper => k.exclusiveMaximum

/-- The bound that a node keeps, and whether it is not to be reached. -/
def kept (f : Facets) : Side → Option Binary64 × Bool
  | lower => (f.minimum, f.exclusiveMinimum)
  | upper => (f.maximum, f.exclusiveMaximum)

/-- The relations to a bound that issues about an end ask for. -/
def relations : Side → List String
  | lower => ["greater than", "at least"]
  | upper => ["less than", "at most"]

def words (relation : String) : List Char := ("must be " ++ relation ++ " ").toList

def asks (side : Side) (issue : Issue) : Bool :=
  issue.kind == .range && side.relations.any fun relation => (words relation).isPrefixOf issue.message.toList

/-- A number lies beyond a bound. -/
def Beyond : Side → ℚ → ℚ → Prop
  | lower, x, bound => x < bound
  | upper, x, bound => bound < x

/-- A number violates a requirement that is stated for an end. -/
@[mk_iff] inductive Violated (side : Side) (k : Keywords) (x : ℚ) : Prop
  | inclusive {m q} : side.inclusive k = some m → m.value? = some q → side.Beyond x q → Violated side k x
  | exclusive {e q} : side.exclusive k = some (.value e) → e.value? = some q → side.Beyond x q ∨ x = q →
      Violated side k x
  | flagged {m q} : side.exclusive k = some (.flag true) → side.inclusive k = some m → m.value? = some q →
      side.Beyond x q ∨ x = q → Violated side k x

structure Finite (side : Side) (k : Keywords) : Prop where
  inclusive : ∀ m, side.inclusive k = some m → m.isFinite = true
  exclusive : ∀ e, side.exclusive k = some (.value e) → e.isFinite = true

/-! Doubles are beyond bounds as their values are. -/

def past : Side → Binary64 → Binary64 → Bool
  | lower, v, bound => v.lt bound
  | upper, v, bound => bound.lt v

def reaches : Side → Binary64 → Binary64 → Bool
  | lower, v, bound => v.le bound
  | upper, v, bound => bound.le v

variable {side : Side} {k : Keywords} {f : Facets} {u v : Binary64} {x p q : ℚ} {path : Path}

theorem past_iff (left : u.value? = some p) (right : v.value? = some q) :
    side.past u v = true ↔ side.Beyond p q := by
  cases side with
  | lower => simp [past, Beyond, Binary64.lt_eq left right]
  | upper => simp [past, Beyond, Binary64.lt_eq right left]

theorem reaches_iff (left : u.value? = some p) (right : v.value? = some q) :
    side.reaches u v = true ↔ side.Beyond p q ∨ p = q := by
  cases side with
  | lower => simp [reaches, Beyond, Binary64.le_eq left right, le_iff_lt_or_eq]
  | upper => simp [reaches, Beyond, Binary64.le_eq right left, le_iff_lt_or_eq, @eq_comm _ q p]

theorem Beyond.trans (first : side.Beyond x p) (second : side.Beyond p q) : side.Beyond x q := by
  cases side with
  | lower => exact lt_trans first second
  | upper => exact lt_trans second first

theorem beyond_or_of_not_beyond (not : ¬ side.Beyond p q) : side.Beyond q p ∨ q = p := by
  cases side with
  | lower => exact lt_or_eq_of_le (not_lt.mp not)
  | upper => exact (lt_or_eq_of_le (not_lt.mp not)).imp id Eq.symm

def refuses (side : Side) (bound : Option Binary64 × Bool) (v : Binary64) : Bool :=
  bound.1.any fun m => if bound.2 then side.reaches v m else side.past v m

def stricter (side : Side) (k : Keywords) : Option Binary64 × Bool :=
  match side.exclusive k, side.inclusive k with
  | none, inclusive => (inclusive, false)
  | some (.flag b), inclusive => (inclusive, b && inclusive.isSome)
  | some (.value e), none => (some e, true)
  | some (.value e), some m => if side.past e m then (some m, false) else (some e, true)

theorem kept_facets (hasMembers hasItems : Bool) :
    side.kept (k.facets hasMembers hasItems) = side.stricter k := by
  cases side with
  | lower =>
    change Keywords.lowerBound k.minimum k.exclusiveMinimum = _
    unfold Keywords.lowerBound stricter inclusive exclusive
    rcases k.exclusiveMinimum with _ | (_ | _) <;> cases k.minimum <;> rfl
  | upper =>
    change Keywords.upperBound k.maximum k.exclusiveMaximum = _
    unfold Keywords.upperBound stricter inclusive exclusive
    rcases k.exclusiveMaximum with _ | (_ | _) <;> cases k.maximum <;> rfl

/-- Of two bounds the stricter one refuses what either does. -/
theorem refuses_stricter_of_two {e m : Binary64} (value : v.value? = some x) (first : e.value? = some p)
    (second : m.value? = some q) :
    side.refuses (if side.past e m then (some m, false) else (some e, true)) v = true ↔
      side.Beyond x q ∨ side.Beyond x p ∨ x = p := by
  by_cases past : side.past e m = true
  · have beyond : side.Beyond p q := (past_iff first second).mp past
    have stricter : side.Beyond x p ∨ x = p → side.Beyond x q := by
      rintro (further | rfl)
      · exact further.trans beyond
      · exact beyond
    simp [past, refuses, past_iff value second, or_iff_left_of_imp stricter]
  · have close : side.Beyond q p ∨ q = p :=
      beyond_or_of_not_beyond fun beyond => past ((past_iff first second).mpr beyond)
    have stricter : side.Beyond x q → side.Beyond x p ∨ x = p := by
      rintro further
      rcases close with beyond | rfl
      · exact .inl (further.trans beyond)
      · exact .inl further
    simp [past, refuses, reaches_iff value first, or_iff_right_of_imp stricter]

/-- The bound that is kept refuses what violates a requirement. -/
theorem refuses_stricter_iff (value : v.value? = some x) (finite : side.Finite k) :
    side.refuses (side.stricter k) v = true ↔ side.Violated k x := by
  have valued {y : Binary64} (finite : y.isFinite = true) : ∃ q, y.value? = some q :=
    Option.isSome_iff_exists.mp ((Binary64.isSome_value? y).trans finite)
  unfold stricter
  rw [violated_iff]
  cases inclusive : side.inclusive k with
  | none =>
    cases exclusive : side.exclusive k with
    | none => simp [refuses]
    | some bound =>
      cases bound with
      | flag b => simp [refuses]
      | value e =>
        obtain ⟨p, given⟩ := valued (finite.exclusive e exclusive)
        simp [refuses, reaches_iff value given, given]
  | some m =>
    obtain ⟨q, stated⟩ := valued (finite.inclusive m inclusive)
    cases exclusive : side.exclusive k with
    | none => simp [refuses, past_iff value stated, stated]
    | some bound =>
      cases bound with
      | flag b => cases b <;> simp [refuses, past_iff value stated, reaches_iff value stated, stated]
      | value e =>
        obtain ⟨p, given⟩ := valued (finite.exclusive e exclusive)
        rw [refuses_stricter_of_two value given stated]
        simp [stated, given]

/-! What issues about an end say. -/

theorem words_lead (relation bound : String) :
    words relation <+: ("must be " ++ relation ++ " " ++ bound).toList :=
  ⟨bound.toList, String.toList_append.symm⟩

theorem asks_of_relation (relation bound : String) (asked : relation ∈ side.relations) :
    side.asks ⟨path, .range, "must be " ++ relation ++ " " ++ bound⟩ = true := by
  simp only [asks, beq_self_eq_true, Bool.true_and, List.any_eq_true]
  exact ⟨relation, asked, List.isPrefixOf_iff_prefix.mpr (words_lead relation bound)⟩

theorem not_asks_of_relation (relation bound : String)
    (apart : ∀ r ∈ side.relations, ¬ words r <+: words relation ∧ ¬ words relation <+: words r) :
    side.asks ⟨path, .range, "must be " ++ relation ++ " " ++ bound⟩ = false := by
  simp only [asks, beq_self_eq_true, Bool.true_and, List.any_eq_false]
  intro r asked leads
  obtain ⟨longer, shorter⟩ := apart r asked
  have both := List.prefix_or_prefix_of_prefix (List.isPrefixOf_iff_prefix.mp leads) (words_lead relation bound)
  exact both.elim longer shorter

section Limit

variable {α : Type} {bound : Option α} {keeps : α → Bool} {kind : IssueKind} {message : α → String}
  {counts : Issue → Bool}

theorem countP_limit_of_all (all : ∀ b, counts ⟨path, kind, message b⟩ = true) :
    (limit bound keeps path kind message).countP counts = (bound.any fun b => !keeps b).toNat := by
  cases bound with
  | none => rfl
  | some b => cases kept : keeps b <;> simp [limit, demand, kept, all]

theorem countP_limit_of_none (none : ∀ b, counts ⟨path, kind, message b⟩ = false) :
    (limit bound keeps path kind message).countP counts = 0 := by
  cases bound with
  | none => rfl
  | some b => cases kept : keeps b <;> simp [limit, demand, kept, none]

end Limit

/-- A node reports one issue about an end if the bound that it keeps there refuses the number, and else none. -/
theorem countP_numberIssues :
    (numberIssues f v path).countP side.asks = (side.refuses (side.kept f) v).toNat := by
  have multiple (b : Binary64) :
      side.asks ⟨path, .range, "must be a multiple of " ++ Layout.plain.write b⟩ = false :=
    not_asks_of_relation "a multiple of" _ (by cases side <;> decide +kernel)
  rw [numberIssues, List.countP_append, List.countP_append, countP_limit_of_none multiple, Nat.add_zero]
  cases side with
  | lower =>
    rw [countP_limit_of_all, countP_limit_of_none, Nat.add_zero]
    · simp only [Bool.not_not]
      rfl
    · exact fun b => not_asks_of_relation _ _ (by cases f.exclusiveMaximum <;> decide +kernel)
    · exact fun b => asks_of_relation _ _ (by cases f.exclusiveMinimum <;> decide)
  | upper =>
    rw [countP_limit_of_none, countP_limit_of_all, Nat.zero_add]
    · simp only [Bool.not_not]
      rfl
    · exact fun b => asks_of_relation _ _ (by cases f.exclusiveMaximum <;> decide)
    · exact fun b => not_asks_of_relation _ _ (by cases f.exclusiveMinimum <;> decide +kernel)

/-- A number is refused at an end exactly if it violates a requirement that is stated for it, and no more than
once. -/
theorem bounds_kept_exactly {hasMembers hasItems : Bool} (value : v.value? = some x) (finite : side.Finite k) :
    ((∃ issue ∈ numberIssues (k.facets hasMembers hasItems) v path, side.asks issue = true) ↔
      side.Violated k x) ∧
    (numberIssues (k.facets hasMembers hasItems) v path).countP side.asks ≤ 1 := by
  have counted : (numberIssues (k.facets hasMembers hasItems) v path).countP side.asks =
      (side.refuses (side.stricter k) v).toNat := by
    rw [countP_numberIssues, kept_facets]
  rw [← List.countP_pos_iff, ← refuses_stricter_iff value finite, counted]
  cases side.refuses (side.stricter k) v <;> simp

/-- Where one and more than one are asked for, one is refused, and once. -/
theorem one_refused_once :
    let one := Binary64.finite false Binary64.one
    let k : Keywords := { minimum := some one, exclusiveMinimum := some (.value one) }
    one.value? = some 1 ∧ lower.Finite k ∧
      (∃ issue ∈ numberIssues (k.facets false false) one [], lower.asks issue = true) ∧
      (numberIssues (k.facets false false) one []).countP lower.asks ≤ 1 := by
  intro one k
  have finite : lower.Finite k := by
    constructor
    · rintro _ ⟨⟩
      rfl
    · rintro _ ⟨⟩
      rfl
  have value : one.value? = some 1 := Binary64.value?_one
  obtain ⟨refused, once⟩ := bounds_kept_exactly value finite
  exact ⟨value, finite, refused.mpr (.exclusive rfl value (.inr rfl)), once⟩

end Side
end ApiAtlas.Shape
