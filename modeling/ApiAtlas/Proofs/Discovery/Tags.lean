import ApiAtlas.Discovery
import ApiAtlas.Proofs.Document.Resolution
import Mathlib.Algebra.Order.BigOperators.Group.List
import Mathlib.Algebra.Order.Group.Nat

/-! Endpoints by tag. An overview restricted to a tag keeps the endpoints that list it, each once. The index
files an endpoint under a tag as often as the endpoint lists it, and under the name for endpoints without tags
also those that list that name. So the two agree exactly where no endpoint lists the tag twice, or lists the
name that is reserved. -/
namespace ApiAtlas

section Repeated

variable {α : Type} {times least : α → Nat} {items : List α}

theorem filter_eq_flatMap_replicate (asked : α → Bool) (items : List α) :
    items.filter asked = items.flatMap fun a => List.replicate (asked a).toNat a := by
  induction items with
  | nil => rfl
  | cons a rest ih => cases found : asked a <;> simp [found, ih]

/-- Items that are repeated at least so often are a list of the same items repeated so often exactly if each of
them is repeated as often. -/
theorem flatMap_replicate_eq_iff (enough : ∀ a ∈ items, least a ≤ times a) :
    (items.flatMap fun a => List.replicate (times a) a) = (items.flatMap fun a => List.replicate (least a) a) ↔
      ∀ a ∈ items, times a = least a := by
  induction items with
  | nil => simp
  | cons a rest ih =>
    obtain ⟨here, others⟩ := List.forall_mem_cons.mp enough
    simp only [List.flatMap_cons, List.forall_mem_cons]
    constructor
    · intro same
      -- Nothing is repeated too little, so that the lengths leave no room for what is repeated too much.
      have room : (rest.map fun a => least a).sum ≤ (rest.map fun a => times a).sum := List.sum_le_sum others
      have total := congrArg List.length same
      simp only [List.length_append, List.length_flatMap, List.length_replicate] at total
      have equal : times a = least a := by omega
      rw [equal] at same
      exact ⟨equal, (ih others).mp (List.append_cancel_left same)⟩
    · rintro ⟨equal, all⟩
      rw [equal, (ih others).mpr all]

end Repeated

namespace Index

variable {table : Table (List Endpoint)} {endpoints : List Endpoint} {e : Endpoint} {tag other : String}

/-- What is filed under a tag. -/
def filed (table : Table (List Endpoint)) (tag : String) : List Endpoint := (table.get? tag).getD []

theorem filed_fileUnder (table : Table (List Endpoint)) (tag other : String) (e : Endpoint) :
    filed (fileUnder table other e) tag = filed table tag ++ List.replicate ([other].count tag) e := by
  by_cases same : tag = other
  · subst same
    simp [filed, fileUnder, Table.get?_put_self]
  · have apart : [other].count tag = 0 := List.count_eq_zero.mpr (by simpa using same)
    simp [filed, fileUnder, Table.get?_put_of_ne same, apart]

/-- An endpoint is filed once for every time that a tag is listed. -/
theorem filed_all (tags : List String) (table : Table (List Endpoint)) (tag : String) (e : Endpoint) :
    filed (tags.foldl (fun table tag => fileUnder table tag e) table) tag =
      filed table tag ++ List.replicate (tags.count tag) e := by
  induction tags generalizing table with
  | nil => simp
  | cons other rest ih =>
    have both : (other :: rest).count tag = [other].count tag + rest.count tag := by
      rw [← List.count_append, List.singleton_append]
    rw [List.foldl_cons, ih, filed_fileUnder, both, List.replicate_add, List.append_assoc]

theorem withTag_add (i : Index) (e : Endpoint) (tag : String) :
    (i.add e).withTag tag = i.withTag tag ++ List.replicate ((tagsOf e).count tag) e :=
  filed_all (tagsOf e) i.byTag tag e

theorem withTag_build (endpoints : List Endpoint) (tag : String) : (build endpoints).withTag tag =
    endpoints.flatMap fun e => List.replicate ((tagsOf e).count tag) e := by
  have folded (i : Index) : (endpoints.foldl add i).withTag tag =
      i.withTag tag ++ endpoints.flatMap fun e => List.replicate ((tagsOf e).count tag) e := by
    induction endpoints generalizing i with
    | nil => simp
    | cons e rest ih => rw [List.foldl_cons, ih, withTag_add, List.append_assoc, List.flatMap_cons]
  exact folded {}

theorem lists_iff : lists tag e = true ↔ if tag = untagged then e.tags = [] else tag ∈ e.tags := by
  unfold lists
  split <;> simp

/-- An endpoint is filed under every tag for which it is listed. -/
theorem lists_le_count (tag : String) (e : Endpoint) : (lists tag e).toNat ≤ (tagsOf e).count tag := by
  cases listed : lists tag e with
  | false => exact Nat.zero_le _
  | true =>
    rw [lists_iff] at listed
    apply List.count_pos_iff.mpr
    unfold tagsOf
    split at listed
    next reserved => simp [listed, reserved]
    next =>
      have tagged : e.tags ≠ [] := List.ne_nil_of_mem listed
      simpa [tagged] using listed

/-- An endpoint lists a tag once at most, and the name for endpoints without tags not at all. -/
def ListsOnce (tag : String) (e : Endpoint) : Prop := e.tags.count tag ≤ if tag = untagged then 0 else 1

theorem count_eq_iff : (tagsOf e).count tag = (lists tag e).toNat ↔ ListsOnce tag e := by
  unfold ListsOnce tagsOf lists
  by_cases reserved : tag = untagged
  · subst reserved
    cases tags : e.tags <;> simp
  · cases tags : e.tags with
    | nil => simp [reserved, Ne.symm reserved]
    | cons first rest =>
      have present : (first :: rest).contains tag = decide (0 < (first :: rest).count tag) := by
        simp [List.count_pos_iff]
      simp only [reserved, if_false, present, List.isEmpty_cons, Bool.false_eq_true]
      generalize (first :: rest).count tag = n
      by_cases positive : 0 < n
      · simp [positive]; omega
      · simp [positive]; omega

/-- The index and the list agree on a tag exactly if it is listed once at most. -/
theorem withTag_eq_filter_iff (endpoints : List Endpoint) (tag : String) :
    (build endpoints).withTag tag = endpoints.filter (lists tag) ↔ ∀ e ∈ endpoints, ListsOnce tag e := by
  rw [withTag_build, filter_eq_flatMap_replicate,
    flatMap_replicate_eq_iff fun e _ => lists_le_count tag e]
  exact forall₂_congr fun e _ => count_eq_iff

end Index

namespace Discovery

/-- An overview restricted to a tag has the endpoints that list the tag, or that have none where the tag is the
name for those. The index gives them as often as they list it, with those that list the reserved name, so that
both agree exactly if no endpoint lists a tag twice or the reserved name. -/
theorem withTag_eq_restrict_iff (d : Discovery) (tag : String) :
    ((d.overview.restrict tag).endpoints =
      d.endpoints.filter fun e => if tag = Index.untagged then e.tags = [] else tag ∈ e.tags) ∧
    (d.withTag tag = d.endpoints.flatMap fun e => List.replicate ((Index.tagsOf e).count tag) e) ∧
    (d.withTag tag = (d.overview.restrict tag).endpoints ↔
      ∀ e ∈ d.endpoints, e.tags.count tag ≤ if tag = Index.untagged then 0 else 1) := by
  have kept : (d.overview.restrict tag).endpoints = d.endpoints.filter (Index.lists tag) := rfl
  rw [kept]
  refine ⟨List.filter_congr fun e _ => ?_, Index.withTag_build d.endpoints tag,
    Index.withTag_eq_filter_iff d.endpoints tag⟩
  rw [Bool.eq_iff_iff, Index.lists_iff]
  split <;> simp

def Document.shelf : Document where
  paths := [("/books", { get := some { tags := ["books", "lending", "books"] } })]

/-- What the index gives is not always what the overview keeps: here it gives one operation twice. -/
theorem book_listed_twice : ¬ ∀ (doc : Document) (d : Discovery) (tag : String), ofDocument doc = .ok d →
    d.withTag tag = (d.overview.restrict tag).endpoints := by
  intro agree
  obtain ⟨d, made, e, only, tags⟩ : ∃ d, ofDocument Document.shelf = .ok d ∧
      ∃ e, d.endpoints = [e] ∧ e.tags = ["books", "lending", "books"] := by
    rw [ofDocument, Document.resolve_eq]
    exact ⟨_, rfl, _, rfl, rfl⟩
  have once := (Index.withTag_eq_filter_iff d.endpoints "books").mp (agree _ d "books" made) e (by simp [only])
  rw [Index.ListsOnce, tags] at once
  exact absurd once (by decide)

end Discovery
end ApiAtlas
