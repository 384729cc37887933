/-!
Tables in order of declaration: lists of pairs in which a key stands once. `put` keeps the place of
a key that is there and replaces its value, so that of repeated declarations the first decides the
place and the last the value.
-/
namespace ApiAtlas

abbrev Table (α : Type u) := List (String × α)

namespace Table

variable {α β : Type}

def put (key : String) (value : α) : Table α → Table α
  | [] => [(key, value)]
  | (k, v) :: rest => if k = key then (k, value) :: rest else (k, v) :: put key value rest

def ofPairs (pairs : List (String × α)) : Table α :=
  pairs.foldl (fun table p => put p.1 p.2 table) []

def keys (table : Table α) : List String := table.map (·.1)

def get? (table : Table α) (key : String) : Option α := table.lookup key

theorem get?_put_self (key : String) (value : α) (table : Table α) :
    (put key value table).get? key = some value := by
  induction table with
  | nil => simp [put, get?]
  | cons p rest ih =>
    obtain ⟨k, v⟩ := p
    by_cases h : k = key
    · simp [put, get?, h]
    · have hk : (key == k) = false := by simpa using fun e => h e.symm
      simpa [put, get?, h, List.lookup_cons, hk] using ih

theorem get?_put_of_ne {key other : String} (h : other ≠ key) (value : α) (table : Table α) :
    (put key value table).get? other = table.get? other := by
  induction table with
  | nil =>
    have hb : (other == key) = false := by simpa using h
    simp [put, get?, List.lookup_cons, hb]
  | cons p rest ih =>
    obtain ⟨k, v⟩ := p
    by_cases hk : k = key
    · subst hk
      have hb : (other == k) = false := by simpa using h
      simp [put, get?, List.lookup_cons, hb]
    · by_cases ho : other = k
      · simp [put, get?, hk, ho]
      · have hb : (other == k) = false := by simpa using ho
        simpa [put, get?, hk, List.lookup_cons, hb] using ih

/-- The keys after `put`: the same ones, or a new one behind them. -/
theorem keys_put (key : String) (value : α) (table : Table α) :
    (put key value table).keys = if key ∈ table.keys then table.keys else table.keys ++ [key] := by
  induction table with
  | nil => simp [put, keys]
  | cons p rest ih =>
    obtain ⟨k, v⟩ := p
    by_cases h : k = key
    · simp [put, keys, h]
    · have h' : key ≠ k := fun e => h e.symm
      simp only [put, h, if_false, keys, List.map_cons, List.mem_cons, h', false_or] at ih ⊢
      rw [ih]
      split <;> rename_i hm <;> simp [hm]

end Table

/-- The items of a list without repetitions, each in its first place. -/
def firsts [BEq α] (items : List α) : List α :=
  items.foldl (fun out a => if out.contains a then out else out ++ [a]) []

example : firsts [1, 2, 1, 3, 2] = [1, 2, 3] := by decide

end ApiAtlas
