import ApiAtlas.Proofs.Number.Exact
import ApiAtlas.Shape.Check
import Mathlib.Tactic.Tauto

/-! Equality of values by the values of their numbers, at every depth, and the comparison that checks use in its
place. The comparison looks at the doubles of two numbers, but at the stored numbers inside lists and objects. So it
overlooks that `[1]` and `[1.0]` are equal, and confuses large whole numbers that have the same double; otherwise it
is equality. -/
namespace ApiAtlas

namespace Number

def sameKind : Number → Number → Bool
  | .whole _, .whole _ | .real _, .real _ => true
  | _, _ => false

/-- The same double is nearest to two numbers of different value. -/
structure Confused (a b : Number) : Prop where
  rounded : a.toBinary64.eqv b.toBinary64 = true
  apart : a.equal b = false

variable {a b : Number}

theorem equal_iff : a.equal b = true ↔ a.value? = b.value? := decide_eq_true_iff

/-- Stored numbers are equal if they have one value and are of one kind. -/
theorem eqv_eq (left : a.Genuine) (right : b.Genuine) : a.eqv b = (a.equal b && a.sameKind b) := by
  cases a with
  | whole m =>
    cases b with
    | whole n => simp [eqv, equal, value?, sameKind, Bool.beq_eq_decide_eq]
    | real y => simp [eqv, sameKind]
  | real x =>
    cases b with
    | whole n => simp [eqv, sameKind]
    | real y =>
      obtain ⟨p, left⟩ := left.exists_value
      obtain ⟨q, right⟩ := right.exists_value
      simpa [eqv, equal, sameKind, left, right] using Binary64.eqv_eq left right

end Number

namespace Json

inductive Numbers (p : Number → Prop) : Json → Prop
  | null : Numbers p .null
  | bool (b) : Numbers p (.bool b)
  | num {n} : p n → Numbers p (.num n)
  | str (s) : Numbers p (.str s)
  | arr {items} : (∀ v ∈ items, Numbers p v) → Numbers p (.arr items)
  | obj {members} : (∀ m ∈ members, Numbers p m.2) → Numbers p (.obj members)

/-- A value as texts hold it. -/
abbrev Genuine (v : Json) : Prop := v.Numbers Number.Genuine

/-- The same value: numbers by their exact value, lists and objects element by element. -/
def equal (a b : Json) : Bool := a.equalBy Number.equal b

def isCollection : Json → Bool
  | .arr _ | .obj _ => true
  | _ => false

/-- Lists or objects that are equal, but hold a whole number where the other holds a double. -/
structure Overlooked (a b : Json) : Prop where
  collection : a.isCollection = true
  equal : a.equal b = true
  kinds : a.equalBy Number.sameKind b = false

@[mk_iff] inductive Confused : Json → Json → Prop
  | num {m n : Number} : m.Confused n → Confused (.num m) (.num n)

section Numbers

variable {p : Number → Prop} {n : Number} {items : List Json} {members : List (String × Json)}

@[simp] theorem numbers_num_iff : (num n).Numbers p ↔ p n := ⟨fun | .num holds => holds, .num⟩

@[simp] theorem numbers_arr_iff : (arr items).Numbers p ↔ ∀ v ∈ items, v.Numbers p :=
  ⟨fun | .arr holds => holds, .arr⟩

@[simp] theorem numbers_obj_iff : (obj members).Numbers p ↔ ∀ m ∈ members, m.2.Numbers p :=
  ⟨fun | .obj holds => holds, .obj⟩

end Numbers

section EqualBy

variable {p q : Number → Number → Bool} {left right : Number → Prop}

mutual
/-- Relations that agree on the numbers of two values compare the values alike. -/
theorem equalBy_congr (agree : ∀ m n, left m → right n → p m n = q m n) : ∀ {a b : Json},
    a.Numbers left → b.Numbers right → a.equalBy p b = a.equalBy q b
  | .null, b, _, _ => by cases b <;> rfl
  | .bool _, b, _, _ => by cases b <;> rfl
  | .str _, b, _, _ => by cases b <;> rfl
  | .num m, b, first, second => by
    cases b
    case num n => exact agree m n (numbers_num_iff.mp first) (numbers_num_iff.mp second)
    all_goals rfl
  | .arr as, b, first, second => by
    cases b
    case arr bs => exact equalItems_congr agree (numbers_arr_iff.mp first) (numbers_arr_iff.mp second)
    all_goals rfl
  | .obj as, b, first, second => by
    cases b
    case obj bs => exact equalMembers_congr agree (numbers_obj_iff.mp first) (numbers_obj_iff.mp second)
    all_goals rfl
theorem equalItems_congr (agree : ∀ m n, left m → right n → p m n = q m n) : ∀ {as bs : List Json},
    (∀ a ∈ as, a.Numbers left) → (∀ b ∈ bs, b.Numbers right) → equalItems p as bs = equalItems q as bs
  | [], bs, _, _ => by cases bs <;> rfl
  | a :: as, [], _, _ => rfl
  | a :: as, b :: bs, first, second => by
    obtain ⟨ha, first⟩ := List.forall_mem_cons.mp first
    obtain ⟨hb, second⟩ := List.forall_mem_cons.mp second
    rw [equalItems, equalItems, equalBy_congr agree ha hb, equalItems_congr agree first second]
theorem equalMembers_congr (agree : ∀ m n, left m → right n → p m n = q m n) :
    ∀ {as bs : List (String × Json)}, (∀ a ∈ as, a.2.Numbers left) → (∀ b ∈ bs, b.2.Numbers right) →
      equalMembers p as bs = equalMembers q as bs
  | [], bs, _, _ => by cases bs <;> rfl
  | (k, a) :: as, [], _, _ => rfl
  | (k, a) :: as, (l, b) :: bs, first, second => by
    obtain ⟨ha, first⟩ := List.forall_mem_cons.mp first
    obtain ⟨hb, second⟩ := List.forall_mem_cons.mp second
    rw [equalMembers, equalMembers, equalBy_congr agree ha hb, equalMembers_congr agree first second]
end

mutual
/-- Two relations on numbers at once. -/
theorem equalBy_and : ∀ a b : Json,
    a.equalBy (fun m n => p m n && q m n) b = (a.equalBy p b && a.equalBy q b)
  | .null, b => by cases b <;> rfl
  | .bool _, b => by cases b <;> simp [equalBy]
  | .str _, b => by cases b <;> simp [equalBy]
  | .num _, b => by cases b <;> simp [equalBy]
  | .arr as, b => by cases b <;> simp [equalBy, equalItems_and as]
  | .obj as, b => by cases b <;> simp [equalBy, equalMembers_and as]
theorem equalItems_and : ∀ as bs : List Json,
    equalItems (fun m n => p m n && q m n) as bs = (equalItems p as bs && equalItems q as bs)
  | [], bs => by cases bs <;> rfl
  | a :: as, [] => rfl
  | a :: as, b :: bs => by
    rw [equalItems, equalItems, equalItems, equalBy_and a b, equalItems_and as bs]
    ac_rfl
theorem equalMembers_and : ∀ as bs : List (String × Json),
    equalMembers (fun m n => p m n && q m n) as bs = (equalMembers p as bs && equalMembers q as bs)
  | [], bs => by cases bs <;> rfl
  | (k, a) :: as, [] => rfl
  | (k, a) :: as, (l, b) :: bs => by
    rw [equalMembers, equalMembers, equalMembers, equalBy_and a b, equalMembers_and as bs]
    cases k == l
    · rfl
    · simp only [Bool.true_and]
      ac_rfl
end

end EqualBy

variable {a b : Json}

/-- Stored values are equal if they are equal and hold numbers of the same kinds. -/
theorem equalBy_eqv (left : a.Genuine) (right : b.Genuine) :
    a.equalBy Number.eqv b = (a.equal b && a.equalBy Number.sameKind b) := by
  rw [equal, ← equalBy_and]
  exact equalBy_congr (fun _ _ => Number.eqv_eq) left right

theorem confused_num_iff {m n : Number} : Confused (.num m) (.num n) ↔ m.Confused n := by
  simp [confused_iff]

theorem not_overlooked_of_flat (flat : a.isCollection = false) : ¬ a.Overlooked b := by
  intro overlooked
  simp [overlooked.collection] at flat

theorem not_confused_of_equal (equal : a.equal b = true) : ¬ a.Confused b := by
  rintro ⟨confused⟩
  exact Bool.false_ne_true (confused.apart.symm.trans equal)

theorem not_confused_of_collection (collection : a.isCollection = true) : ¬ a.Confused b := by
  rintro ⟨-⟩
  contradiction

theorem equal_iff_overlooked_or_not : a.equal b = true ↔ a.equal b = true ∧ ¬ a.Overlooked b ∨ a.Overlooked b := by
  have overlooked : a.Overlooked b → a.equal b = true := Overlooked.equal
  tauto

theorem same_iff_of_collection (collection : a.isCollection = true) (left : a.Genuine) (right : b.Genuine) :
    a.same b = true ↔ a.equal b = true ∧ ¬ a.Overlooked b := by
  have structural : a.same b = a.equalBy Number.eqv b := by
    cases a <;> first | contradiction | rfl
  have overlooked : a.Overlooked b ↔ a.equal b = true ∧ a.equalBy Number.sameKind b = false :=
    ⟨fun o => ⟨o.equal, o.kinds⟩, fun ⟨equal, kinds⟩ => ⟨collection, equal, kinds⟩⟩
  rw [structural, equalBy_eqv left right, overlooked]
  cases a.equal b <;> simp

theorem same_num_iff {m n : Number} (left : m.Genuine) (right : n.Genuine) :
    (num m).same (num n) = true ↔ m.equal n = true ∨ m.Confused n := by
  constructor
  · intro rounded
    by_cases equal : m.equal n = true
    · exact .inl equal
    · exact .inr ⟨rounded, by simpa using equal⟩
  · rintro (equal | confused)
    · exact Number.eqv_toBinary64 left right (Number.equal_iff.mp equal)
    · exact confused.rounded

/-- What checks take for the same is equal and not overlooked, or confused. -/
theorem same_iff (left : a.Genuine) (right : b.Genuine) :
    a.same b = true ↔ a.equal b = true ∧ ¬ a.Overlooked b ∨ a.Confused b := by
  cases collection : a.isCollection with
  | true =>
    simp only [same_iff_of_collection collection left right, not_confused_of_collection collection, or_false]
  | false =>
    simp only [not_overlooked_of_flat collection, not_false_eq_true, and_true]
    cases a with
    | arr | obj => contradiction
    | num m =>
      cases b with
      | num n =>
        rw [same_num_iff (numbers_num_iff.mp left) (numbers_num_iff.mp right), confused_num_iff]
        exact Iff.rfl
      | _ => exact ⟨.inl, fun h => h.resolve_right nofun⟩
    | _ =>
      refine Iff.trans ?_ (or_iff_left nofun).symm
      cases b <;> exact Iff.rfl

end Json
end ApiAtlas
