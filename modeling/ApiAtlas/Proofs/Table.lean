import ApiAtlas.Table
import Mathlib.Data.List.Induction
import Mathlib.Data.List.Nodup

/-! Tables written entry by entry. A key keeps one entry, and of several entries under one key the
last one remains, so that a table made from entries holds exactly those that no later one replaces.
A list without repetitions holds each item once. -/
namespace ApiAtlas.Table

variable {α : Type} {table entries : Table α} {key k : String} {value a : α}

theorem lookup_map {β : Type} (g : α → β) (entries : List (String × α)) (key : String) :
    (entries.map fun p => (p.1, g p.2)).lookup key = (entries.lookup key).map g := by
  induction entries with
  | nil => rfl
  | cons p rest ih =>
    obtain ⟨k, a⟩ := p
    simp only [List.map_cons, List.lookup_cons, ih]
    cases key == k <;> rfl

theorem mem_of_get? (found : table.get? key = some a) : (key, a) ∈ table := by
  obtain ⟨before, after, rfl, -⟩ := List.lookup_eq_some_iff.mp found
  simp

theorem mem_keys_of_get? (found : table.get? key = some a) : key ∈ table.keys :=
  List.mem_map_of_mem (f := Prod.fst) (mem_of_get? found)

/-- Putting what is there already changes nothing. -/
theorem put_eq_self (found : table.get? key = some a) : put key a table = table := by
  induction table with
  | nil => contradiction
  | cons entry rest ih =>
    obtain ⟨head, b⟩ := entry
    by_cases same : head = key
    · subst same
      obtain rfl : b = a := by simpa [get?] using found
      simp [put]
    · have other : (key == head) = false := by simpa using fun equal => same equal.symm
      simp only [get?, List.lookup_cons, other] at found
      simp only [put, same, if_false, ih found]

def Last (entries : Table α) (key : String) (value : α) : Prop :=
  ∃ before after, entries = before ++ (key, value) :: after ∧ key ∉ keys after

theorem nodup_keys_put (distinct : table.keys.Nodup) : (put key value table).keys.Nodup := by
  rw [keys_put]
  split
  next => exact distinct
  next absent =>
    rw [List.nodup_append]
    refine ⟨distinct, List.nodup_singleton _, ?_⟩
    rintro k present other member rfl
    exact absent (List.mem_singleton.mp member ▸ present)

/-- Putting an entry leaves those under other keys as they are. -/
theorem mem_put_iff (distinct : table.keys.Nodup) :
    (k, a) ∈ put key value table ↔ (k = key ∧ a = value) ∨ (k ≠ key ∧ (k, a) ∈ table) := by
  induction table with
  | nil => simp [put]
  | cons entry rest ih =>
    obtain ⟨head, b⟩ := entry
    obtain ⟨absent, distinct⟩ := List.nodup_cons.mp distinct
    by_cases same : head = key
    · subst same
      have elsewhere : (k, a) ∈ rest → k ≠ head := by
        intro member same
        have present : k ∈ keys rest := List.mem_map_of_mem (f := Prod.fst) member
        exact absent (same ▸ present)
      simp only [put, if_true, List.mem_cons, Prod.mk.injEq]
      tauto
    · simp only [put, same, if_false, List.mem_cons, Prod.mk.injEq, ih distinct]
      constructor
      · rintro (⟨rfl, rfl⟩ | inside)
        · exact .inr ⟨same, .inl ⟨rfl, rfl⟩⟩
        · tauto
      · tauto

/-- An entry under a new key goes to the end. -/
theorem put_of_absent (absent : ∀ entry ∈ table, entry.1 ≠ key) :
    put key value table = table ++ [(key, value)] := by
  induction table with
  | nil => rfl
  | cons entry rest ih =>
    obtain ⟨different, absent⟩ := List.forall_mem_cons.mp absent
    simp [put, different, ih absent]

theorem ofPairs_concat (entries : Table α) :
    ofPairs (entries ++ [(key, value)]) = put key value (ofPairs entries) := by
  simp [ofPairs, List.foldl_append]

theorem nodup_keys_ofPairs (entries : Table α) : (ofPairs entries).keys.Nodup := by
  induction entries using List.reverseRecOn with
  | nil => exact List.nodup_nil
  | append_singleton entries entry ih => rw [ofPairs_concat]; exact nodup_keys_put ih

theorem last_concat_iff : Last (entries ++ [(key, value)]) k a ↔
    (k = key ∧ a = value) ∨ (k ≠ key ∧ Last entries k a) := by
  constructor
  · rintro ⟨before, after, whole, absent⟩
    rcases List.eq_nil_or_concat after with rfl | ⟨rest, entry, rfl⟩
    · obtain ⟨-, same⟩ := List.append_inj' whole rfl
      exact .inl (by simpa [eq_comm] using same)
    · rw [List.concat_eq_append] at whole absent
      rw [← List.cons_append, ← List.append_assoc] at whole
      obtain ⟨front, same⟩ := List.append_inj' whole rfl
      obtain rfl := List.singleton_inj.mp same
      simp only [keys, List.map_append, List.map_cons, List.map_nil, List.mem_append,
        List.mem_singleton, not_or] at absent
      exact .inr ⟨absent.2, before, rest, front, absent.1⟩
  · rintro (⟨rfl, rfl⟩ | ⟨other, before, after, rfl, absent⟩)
    · exact ⟨entries, [], rfl, by simp [keys]⟩
    · refine ⟨before, after ++ [(key, value)], by simp, ?_⟩
      simpa [keys] using ⟨fun b member => absent (List.mem_map_of_mem (f := Prod.fst) member), other⟩

/-- In a table the entry under a key is the one that is found there. -/
theorem get?_eq_some_iff (distinct : table.keys.Nodup) : table.get? k = some a ↔ (k, a) ∈ table := by
  induction table with
  | nil => simp [get?]
  | cons entry rest ih =>
    obtain ⟨head, b⟩ := entry
    obtain ⟨absent, distinct⟩ := List.nodup_cons.mp distinct
    simp only [get?, List.lookup_cons, List.mem_cons, Prod.mk.injEq] at ih ⊢
    by_cases same : k = head
    · subst same
      have elsewhere : (k, a) ∉ rest := by
        intro member
        have present : k ∈ keys rest := List.mem_map_of_mem (f := Prod.fst) member
        exact absent present
      simp [elsewhere, eq_comm]
    · have other : (k == head) = false := by simpa using same
      simp only [other, same, false_and, false_or]
      exact ih distinct

/-- Entries under different keys are a table as they stand. -/
theorem ofPairs_eq_self (distinct : entries.keys.Nodup) : ofPairs entries = entries := by
  induction entries using List.reverseRecOn with
  | nil => rfl
  | append_singleton entries entry ih =>
    obtain ⟨key, value⟩ := entry
    simp only [keys, List.map_append, List.map_cons, List.map_nil, List.nodup_append,
      List.mem_singleton] at distinct
    obtain ⟨front, -, apart⟩ := distinct
    have absent : ∀ entry ∈ entries, entry.1 ≠ key := fun entry member =>
      apart entry.1 (List.mem_map_of_mem (f := Prod.fst) member) key rfl
    rw [ofPairs_concat, ih front]
    exact put_of_absent absent

/-- A table made from entries holds the last one of each key. -/
theorem mem_ofPairs_iff (entries : Table α) : (key, value) ∈ ofPairs entries ↔ Last entries key value := by
  induction entries using List.reverseRecOn with
  | nil => simp [ofPairs, Last]
  | append_singleton entries entry ih =>
    rw [ofPairs_concat, mem_put_iff (nodup_keys_ofPairs entries), last_concat_iff, ih]

/-- Every key that occurs has a last entry. -/
theorem exists_last (member : key ∈ keys entries) : ∃ value, Last entries key value := by
  induction entries using List.reverseRecOn with
  | nil => simp [keys] at member
  | append_singleton entries entry ih =>
    obtain ⟨k, a⟩ := entry
    by_cases same : key = k
    · exact ⟨a, last_concat_iff.mpr (.inl ⟨same, rfl⟩)⟩
    · have inside : key ∈ keys entries := by simpa [keys, same] using member
      obtain ⟨value, last⟩ := ih inside
      exact ⟨value, last_concat_iff.mpr (.inr ⟨same, last⟩)⟩

end ApiAtlas.Table

namespace ApiAtlas

variable {α : Type} [BEq α] [LawfulBEq α] {a : α}

theorem firsts_concat (items : List α) (a : α) :
    firsts (items ++ [a]) = if a ∈ firsts items then firsts items else firsts items ++ [a] := by
  simp [firsts, List.foldl_append]

theorem mem_firsts {items : List α} : a ∈ firsts items ↔ a ∈ items := by
  induction items using List.reverseRecOn with
  | nil => simp [firsts]
  | append_singleton items b ih =>
    rw [firsts_concat]
    by_cases present : b ∈ firsts items
    · have kept : a = b → a ∈ items := fun same => ih.mp (same ▸ present)
      simp only [present, if_true, ih, List.mem_append, List.mem_singleton]
      exact ⟨.inl, fun member => member.elim id kept⟩
    · simp [present, ih]

theorem nodup_firsts (items : List α) : (firsts items).Nodup := by
  induction items using List.reverseRecOn with
  | nil => exact List.nodup_nil
  | append_singleton items b ih =>
    rw [firsts_concat]
    split
    next => exact ih
    next absent =>
      refine List.nodup_append.mpr ⟨ih, List.nodup_singleton b, fun a member c last => ?_⟩
      rw [List.mem_singleton.mp last]
      exact fun same => absent (same ▸ member)

/-- The first item stays first. -/
theorem exists_firsts_cons (a : α) (items : List α) : ∃ rest, firsts (a :: items) = a :: rest := by
  induction items using List.reverseRecOn with
  | nil => exact ⟨[], rfl⟩
  | append_singleton items b ih =>
    obtain ⟨rest, kept⟩ := ih
    rw [← List.cons_append, firsts_concat, kept]
    split
    · exact ⟨rest, rfl⟩
    · exact ⟨rest ++ [b], rfl⟩

end ApiAtlas
