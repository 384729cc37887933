import ApiAtlas.Proofs.Number.Finite
import ApiAtlas.Tree.Fields

/-! Trees without infinite numbers. Written scalars count by the type that they get when the tree is settled;
the keys of records do not count. Settling keeps such a tree, and so does taking the fields of a record. -/
namespace ApiAtlas

def Number.isFinite (n : Number) : Bool := n.toBinary64.isFinite

theorem Number.isFinite_whole {n : Int} (range : Number.inRange n = true) : (whole n).isFinite = true := by
  have bounds : -(2 : Int) ^ 63 ≤ n ∧ n < 2 ^ 64 := by simpa [Number.inRange] using range
  rw [isFinite, toBinary64]
  exact (Binary64.within_ofInt (by omega)).isFinite

namespace Scalar

def isFinite (tag : String) (style : Style) (s : String) : Bool :=
  match ofText tag style s with
  | .num (.real x) => x.isFinite
  | _ => true

inductive Typed : Tree → Prop
  | null : Typed .null
  | bool (b : Bool) : Typed (.bool b)
  | whole {n : Int} : Number.inRange n = true → Typed (.num (.whole n))
  | real (x : Binary64) : Typed (.num (.real x))
  | str (s : String) : Typed (.str s)
  | unreadable : Typed .unreadable

theorem typed_ofInt? {s : String} {t : Tree} (read : ofInt? s = some t) : Typed t := by
  obtain ⟨n, -, read⟩ := Option.bind_eq_some_iff.mp read
  split at read
  next range =>
    obtain rfl := Option.some.inj read
    exact .whole range
  next =>
    split at read
    · obtain rfl := Option.some.inj read
      exact .unreadable
    · contradiction

theorem typed_ofPlain (s : String) : Typed (ofPlain s) := by
  unfold ofPlain
  split
  · exact .null
  split
  next b _ => exact .bool b
  split
  next read => exact typed_ofInt? read
  split
  · exact .str s
  split
  next x _ => exact .real x
  · exact .str s

theorem typed_ofText (tag : String) (style : Style) (s : String) : Typed (ofText tag style s) := by
  unfold ofText
  split
  · exact .unreadable
  split
  · split
    next b _ => exact .bool b
    next => exact .unreadable
  split
  · cases read : ofInt? s with
    | none => exact .unreadable
    | some t => exact typed_ofInt? read
  split
  · split
    next x _ => exact .real x
    next => exact .unreadable
  split
  · split
    · exact .null
    · exact .unreadable
  split
  · exact typed_ofPlain s
  · exact .str s

end Scalar

namespace Tree

mutual
def isFinite : Tree → Bool
  | .num n => n.isFinite
  | .text tag style s => Scalar.isFinite tag style s
  | .list _ items => itemsFinite items
  | .record _ members => valuesFinite members
  | .null | .bool _ | .str _ | .unreadable => true
def itemsFinite : List Tree → Bool
  | [] => true
  | t :: rest => t.isFinite && itemsFinite rest
def valuesFinite : List (Tree × Tree) → Bool
  | [] => true
  | (_, t) :: rest => t.isFinite && valuesFinite rest
end

variable {t u : Tree} {tag : Option String}

theorem isFinite_num (n : Number) : (Tree.num n).isFinite = n.isFinite := by rw [isFinite]

theorem isFinite_real (x : Binary64) : (Tree.num (.real x)).isFinite = x.isFinite := by
  rw [isFinite_num, Number.isFinite, Number.toBinary64]

@[simp] theorem isFinite_list {items : List Tree} :
    (Tree.list tag items).isFinite = true ↔ ∀ t ∈ items, t.isFinite = true := by
  rw [isFinite]
  induction items with
  | nil => simp [itemsFinite]
  | cons t rest ih => simp [itemsFinite, ih]

@[simp] theorem isFinite_record {members : List (Tree × Tree)} :
    (Tree.record tag members).isFinite = true ↔ ∀ m ∈ members, m.2.isFinite = true := by
  rw [isFinite]
  induction members with
  | nil => simp [valuesFinite]
  | cons m rest ih => simp [valuesFinite, ih]

/-! Settled trees. -/

theorem isFinite_ofText {tag : String} {style : Style} {s : String}
    (finite : Scalar.isFinite tag style s = true) : (Scalar.ofText tag style s).isFinite = true := by
  have typed := Scalar.typed_ofText tag style s
  unfold Scalar.isFinite at finite
  generalize Scalar.ofText tag style s = t at typed finite ⊢
  cases typed with
  | whole range => rw [isFinite_num, Number.isFinite_whole range]
  | real x => rw [isFinite_real]; exact finite
  | _ => rfl

mutual
theorem isFinite_settle : ∀ {t u : Tree}, t.isFinite = true → t.settle = some u → u.isFinite = true
  | .null, _, _, settled | .bool _, _, _, settled | .str _, _, _, settled => by cases settled; rfl
  | .num _, _, finite, settled => by cases settled; exact finite
  | .text tag style s, u, finite, settled => by
    have same : Scalar.ofText tag style s = u := by
      simp only [settle] at settled
      split at settled
      · contradiction
      · exact Option.some.inj settled
    exact same ▸ isFinite_ofText finite
  | .list _ items, _, finite, settled => by
    simp only [settle] at settled
    split at settled
    · contradiction
    obtain ⟨us, inside, rfl⟩ := Option.map_eq_some_iff.mp settled
    exact itemsFinite_settle finite inside
  | .record _ members, _, finite, settled => by
    simp only [settle] at settled
    split at settled
    · contradiction
    obtain ⟨ns, inside, rfl⟩ := Option.map_eq_some_iff.mp settled
    exact valuesFinite_settle finite inside
theorem itemsFinite_settle : ∀ {ts us : List Tree}, itemsFinite ts = true →
    settleItems ts = some us → itemsFinite us = true
  | [], _, _, settled => by cases settled; rfl
  | t :: ts, _, finite, settled => by
    obtain ⟨first, rest⟩ := Bool.and_eq_true_iff.mp finite
    simp only [settleItems, Option.bind_eq_bind, Option.bind_eq_some_iff, Option.pure_def,
      Option.some.injEq] at settled
    obtain ⟨u, settled, us, others, rfl⟩ := settled
    exact Bool.and_eq_true_iff.mpr ⟨isFinite_settle first settled, itemsFinite_settle rest others⟩
theorem valuesFinite_settle : ∀ {ms ns : List (Tree × Tree)}, valuesFinite ms = true →
    settleMembers ms = some ns → valuesFinite ns = true
  | [], _, _, settled => by cases settled; rfl
  | (k, t) :: ms, _, finite, settled => by
    obtain ⟨first, rest⟩ := Bool.and_eq_true_iff.mp finite
    simp only [settleMembers, Option.bind_eq_bind, Option.bind_eq_some_iff, Option.pure_def,
      Option.some.injEq] at settled
    obtain ⟨_, -, u, settled, us, others, rfl⟩ := settled
    exact Bool.and_eq_true_iff.mpr ⟨isFinite_settle first settled, valuesFinite_settle rest others⟩
end

/-! Fields of records. -/

/-- A field that is found belongs to a member. -/
theorem mem_of_fields? {α : Type} {names : List String} {members : List (Tree × α)}
    {fields : List (String × α)} (found : fields? names members = some fields) {f : String × α}
    (member : f ∈ fields) : ∃ key, (key, f.2) ∈ members := by
  induction members generalizing fields with
  | nil =>
    cases found
    contradiction
  | cons m rest ih =>
    obtain ⟨key, value⟩ := m
    simp only [fields?, Option.bind_eq_bind, Option.bind_eq_some_iff] at found
    obtain ⟨others, later, name, -, found⟩ := found
    have below (inside : f ∈ others) : ∃ key', (key', f.2) ∈ (key, value) :: rest := by
      obtain ⟨key', inside⟩ := ih later inside
      exact ⟨key', .tail _ inside⟩
    split at found
    · obtain rfl := Option.some.inj found
      exact below member
    split at found
    · contradiction
    obtain rfl := Option.some.inj found
    rcases List.mem_cons.mp member with rfl | inside
    · exact ⟨key, List.mem_cons_self⟩
    · exact below inside

theorem isFinite_members? {names : List String} {least : Nat} {members : List (Tree × Tree)}
    (finite : t.isFinite = true) (given : t.members? names least = some members) :
    ∀ m ∈ members, m.2.isFinite = true := by
  unfold members? at given
  split at given
  · cases given
    exact isFinite_record.mp finite
  · split at given
    · cases given
      exact nofun
    · contradiction
  · split at given
    · cases given
      exact fun m member => isFinite_list.mp finite m.2 (List.of_mem_zip member).2
    · contradiction
  · contradiction

theorem isFinite_record? {names : List String} {least : Nat} {fields : List (String × Tree)}
    (finite : t.isFinite = true) (given : t.record? names least = some fields) :
    ∀ f ∈ fields, f.2.isFinite = true := by
  obtain ⟨members, given, found⟩ := Option.bind_eq_some_iff.mp given
  intro f member
  obtain ⟨key, inside⟩ := mem_of_fields? found member
  exact isFinite_members? finite given _ inside

end Tree
end ApiAtlas
