import ApiAtlas.Json.Value
import Mathlib.Data.String.Basic

/-! Objects that come from data. Their members are sorted by key, no key stands twice, and sorting them again
changes nothing. -/
namespace ApiAtlas.Json

variable {α : Type} {key : String} {value : α} {members sorted : List (String × α)} {m : String × α}

def Sorted (members : List (String × α)) : Prop := members.Pairwise fun m n => m.1 < n.1

theorem mem_insertMember (inside : m ∈ insertMember key value members) :
    m = (key, value) ∨ m ∈ members := by
  induction members with
  | nil => exact .inl (List.mem_singleton.mp inside)
  | cons n rest ih =>
    unfold insertMember at inside
    split at inside
    · exact List.mem_cons.mp inside
    split at inside
    · exact (List.mem_cons.mp inside).imp_right (List.mem_cons_of_mem n)
    · rcases List.mem_cons.mp inside with rfl | later
      · exact .inr List.mem_cons_self
      · exact (ih later).imp_right (List.mem_cons_of_mem n)

theorem sorted_insertMember (ordered : Sorted members) : Sorted (insertMember key value members) := by
  induction members with
  | nil => exact List.pairwise_singleton _ _
  | cons n rest ih =>
    obtain ⟨first, others⟩ := List.pairwise_cons.mp ordered
    unfold insertMember
    split
    next before =>
      refine List.pairwise_cons.mpr ⟨fun m member => ?_, ordered⟩
      rcases List.mem_cons.mp member with rfl | later
      · exact before
      · exact lt_trans before (first m later)
    split
    next same =>
      exact List.pairwise_cons.mpr ⟨fun m member => lt_of_eq_of_lt same (first m member), others⟩
    next notBefore other =>
      refine List.pairwise_cons.mpr ⟨fun m member => ?_, ih others⟩
      rcases mem_insertMember member with rfl | later
      · exact lt_of_le_of_ne (not_lt.mp notBefore) (Ne.symm other)
      · exact first m later

/-- A member behind all others is put at the end. -/
theorem insertMember_of_last (last : ∀ m ∈ members, m.1 < key) :
    insertMember key value members = members ++ [(key, value)] := by
  induction members with
  | nil => rfl
  | cons n rest ih =>
    obtain ⟨before, last⟩ := List.forall_mem_cons.mp last
    simp only [insertMember, not_lt_of_gt before, if_false, ne_of_gt before, ih last, List.cons_append]

/-- What is put in one after the other comes from what was there or was put in. -/
theorem mem_foldl_insertMember
    (inside : m ∈ members.foldl (fun sorted m => insertMember m.1 m.2 sorted) sorted) :
    m ∈ sorted ∨ m ∈ members := by
  induction members generalizing sorted with
  | nil => exact .inl inside
  | cons n rest ih =>
    rcases ih inside with early | late
    · rcases mem_insertMember early with rfl | early
      · exact .inr List.mem_cons_self
      · exact .inl early
    · exact .inr (List.mem_cons_of_mem n late)

theorem mem_sortMembers (inside : m ∈ sortMembers members) : m ∈ members :=
  (mem_foldl_insertMember inside).resolve_left List.not_mem_nil

theorem mem_keys_insertMember {k : String} : k ∈ (insertMember key value members).map Prod.fst ↔
    k = key ∨ k ∈ members.map Prod.fst := by
  induction members with
  | nil => simp [insertMember]
  | cons n rest ih =>
    unfold insertMember
    split
    · simp only [List.map_cons, List.mem_cons]
    split
    next same => simp only [List.map_cons, List.mem_cons, ← same, or_self_left]
    · rw [List.map_cons, List.mem_cons, ih, List.map_cons, List.mem_cons, or_left_comm]

/-- Sorting loses no key. -/
theorem mem_keys_sortMembers : key ∈ (sortMembers members).map Prod.fst ↔ key ∈ members.map Prod.fst := by
  have folded (sorted : List (String × α)) :
      key ∈ (members.foldl (fun sorted m => insertMember m.1 m.2 sorted) sorted).map Prod.fst ↔
        key ∈ sorted.map Prod.fst ∨ key ∈ members.map Prod.fst := by
    induction members generalizing sorted with
    | nil => simp
    | cons n rest ih =>
      rw [List.foldl_cons, ih, mem_keys_insertMember, List.map_cons, List.mem_cons, or_assoc, or_left_comm]
  exact (folded []).trans (or_iff_right List.not_mem_nil)

theorem sorted_sortMembers (members : List (String × α)) : Sorted (sortMembers members) := by
  have folded (sorted : List (String × α)) (ordered : Sorted sorted) :
      Sorted (members.foldl (fun sorted m => insertMember m.1 m.2 sorted) sorted) := by
    induction members generalizing sorted with
    | nil => exact ordered
    | cons n rest ih => exact ih _ (sorted_insertMember ordered)
  exact folded [] .nil

theorem sortMembers_of_sorted (ordered : Sorted members) : sortMembers members = members := by
  have folded (sorted : List (String × α)) (whole : Sorted (sorted ++ members)) :
      members.foldl (fun sorted m => insertMember m.1 m.2 sorted) sorted = sorted ++ members := by
    induction members generalizing sorted with
    | nil => simp
    | cons n rest ih =>
      have last : ∀ m ∈ sorted, m.1 < n.1 := fun m member =>
        (List.pairwise_append.mp whole).2.2 m member n List.mem_cons_self
      have step : sorted ++ n :: rest = (sorted ++ [n]) ++ rest := by simp
      rw [List.foldl_cons, insertMember_of_last last, step]
      exact ih (List.pairwise_cons.mp ordered).2 _ (step ▸ whole)
  exact folded [] ordered

end ApiAtlas.Json
