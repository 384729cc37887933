import ApiAtlas.Text.Search
import Mathlib.Data.List.Infix
import Mathlib.Data.List.Nodup
import Mathlib.Data.List.Perm.Subperm
import Mathlib.Tactic.LinearCombination

/-! Replacing several parts of a text, one after the other or all at once. Both give the same if no part is seen
where there was none before, at the edge of what was put in or inside it. -/
namespace ApiAtlas

/-- The number of places in a text where a part begins. -/
def occurrences (part text : List Char) : Nat := text.tails.countP part.isPrefixOf

/-- Parts of which no two share a character in any text. -/
structure Apart (parts : List (List Char)) : Prop where
  filled : [] ∉ parts
  distinct : parts.Nodup
  alone : ∀ p ∈ parts, ∀ q ∈ parts, ∀ k < p.length, ∀ text, p.drop k <+: text → q <+: text → k = 0 ∧ p = q

section Occurrences

variable {p q text rest : List Char} {parts others : List (List Char)}

theorem Apart.of_subperm (apart : Apart parts) (sub : others.Subperm parts) : Apart others where
  filled := fun member => apart.filled (sub.subset member)
  distinct := by
    obtain ⟨kept, perm, sublist⟩ := sub
    exact perm.nodup_iff.mp (apart.distinct.sublist sublist)
  alone := fun p here q there => apart.alone p (sub.subset here) q (sub.subset there)

/-- Only the part itself begins in a part, and where that does. -/
theorem Apart.begins_iff (apart : Apart parts) (here : p ∈ parts) (there : q ∈ parts) {k : Nat}
    (bound : k < p.length) (rest : List Char) : q <+: p.drop k ++ rest ↔ k = 0 ∧ p = q := by
  constructor
  · exact apart.alone p here q there k bound _ (List.prefix_append _ _)
  · rintro ⟨rfl, rfl⟩
    exact List.prefix_append _ _

theorem occurrences_nil (filled : p ≠ []) : occurrences p [] = 0 := by
  cases p with
  | nil => contradiction
  | cons c p => rfl

theorem occurrences_cons (c : Char) (rest : List Char) :
    occurrences p (c :: rest) = occurrences p rest + if p <+: c :: rest then 1 else 0 := by
  simp only [occurrences, List.tails_cons, List.countP_cons, List.isPrefixOf_iff_prefix]

/-- If a part begins nowhere in the first of two texts, its places are those in the second. -/
theorem occurrences_append (none : ∀ k < text.length, ¬ p <+: text.drop k ++ rest) :
    occurrences p (text ++ rest) = occurrences p rest := by
  induction text with
  | nil => rfl
  | cons c text ih =>
    have here : ¬ p <+: c :: (text ++ rest) := none 0 (by simp)
    have behind : ∀ k < text.length, ¬ p <+: text.drop k ++ rest := fun k bound =>
      none (k + 1) (by simpa using bound)
    rw [List.cons_append, occurrences_cons, ih behind, if_neg here, Nat.add_zero]

theorem occurrences_le_append (text rest : List Char) : occurrences p rest ≤ occurrences p (text ++ rest) := by
  induction text with
  | nil => exact le_rfl
  | cons c text ih =>
    rw [List.cons_append, occurrences_cons]
    omega

theorem Apart.occurrences_append (apart : Apart parts) (here : p ∈ parts) (there : q ∈ parts) :
    occurrences q (p ++ rest) = occurrences q rest + if p = q then 1 else 0 := by
  cases p with
  | nil => exact absurd here apart.filled
  | cons c p =>
    have behind : ∀ k < p.length, ¬ q <+: p.drop k ++ rest := fun k bound =>
      mt (apart.begins_iff here there (k := k + 1) (by simpa using bound) rest).mp (by simp)
    have begins : q <+: c :: (p ++ rest) ↔ c :: p = q := by
      simpa using apart.begins_iff here there (k := 0) (by simp) rest
    simp only [List.cons_append, occurrences_cons, ApiAtlas.occurrences_append behind, begins]

end Occurrences

structure Rule where
  part : List Char
  new : List Char

namespace Rule

/-- One pass over a text that replaces every part; `skip` more characters belong to the last one. What is put in
is not looked at again. -/
def passFrom (rules : List Rule) : Nat → List Char → List Char
  | _, [] => []
  | skip + 1, _ :: rest => passFrom rules skip rest
  | 0, c :: rest =>
    match rules.find? fun r => r.part.isPrefixOf (c :: rest) with
    | some r => r.new ++ passFrom rules (r.part.length - 1) rest
    | none => c :: passFrom rules 0 rest

def pass (rules : List Rule) (text : List Char) : List Char := passFrom rules 0 text

variable {rules : List Rule} {r : Rule} {text rest : List Char}

/-- Replacing one part is a pass with a single rule. -/
theorem replaceFrom_eq (p new : List Char) (skip : Nat) (text : List Char) :
    replaceFrom p new skip text = passFrom [⟨p, new⟩] skip text := by
  induction text generalizing skip with
  | nil => cases skip <;> rfl
  | cons c rest ih =>
    cases skip with
    | succ skip => exact ih skip
    | zero =>
      rw [replaceFrom, passFrom, List.find?_singleton]
      split <;> simp [ih]

theorem passFrom_eq (rules : List Rule) (skip : Nat) (text : List Char) :
    passFrom rules skip text = pass rules (text.drop skip) := by
  induction skip generalizing text with
  | zero => rfl
  | succ skip ih =>
    cases text with
    | nil => rfl
    | cons c rest => exact ih rest

/-- Where no part begins, a character is kept. -/
theorem pass_cons {c : Char} (plain : ∀ r ∈ rules, ¬ r.part <+: c :: rest) :
    pass rules (c :: rest) = c :: pass rules rest := by
  have absent : (rules.find? fun r => r.part.isPrefixOf (c :: rest)) = none := by
    simpa [List.isPrefixOf_iff_prefix] using plain
  rw [pass, passFrom, absent]
  rfl

theorem pass_append (plain : ∀ k < text.length, ∀ r ∈ rules, ¬ r.part <+: text.drop k ++ rest) :
    pass rules (text ++ rest) = text ++ pass rules rest := by
  induction text with
  | nil => rfl
  | cons c text ih =>
    have here : ∀ r ∈ rules, ¬ r.part <+: c :: (text ++ rest) := plain 0 (by simp)
    have behind : ∀ k < text.length, ∀ r ∈ rules, ¬ r.part <+: text.drop k ++ rest := fun k bound =>
      plain (k + 1) (by simpa using bound)
    rw [List.cons_append, pass_cons here, ih behind]
    rfl

/-- Where a part begins, its rule is applied. -/
theorem pass_part (apart : Apart (rules.map part)) (member : r ∈ rules) (rest : List Char) :
    pass rules (r.part ++ rest) = r.new ++ pass rules rest := by
  have filled : r.part ≠ [] := fun empty => apart.filled (empty ▸ List.mem_map_of_mem member)
  obtain ⟨c, tail, split⟩ := List.exists_cons_of_ne_nil filled
  have begins : ∀ r' ∈ rules, r'.part.isPrefixOf (c :: (tail ++ rest)) = true ↔ r' = r := by
    intro r' member'
    have same := apart.begins_iff (List.mem_map_of_mem member) (List.mem_map_of_mem member')
      (List.length_pos_iff.mpr filled) rest
    rw [List.drop_zero, split, List.cons_append] at same
    rw [List.isPrefixOf_iff_prefix, same, and_iff_right rfl, ← split]
    exact ⟨fun parts => (List.inj_on_of_nodup_map apart.distinct member member' parts).symm, fun e => by rw [e]⟩
  have found : (rules.find? fun r => r.part.isPrefixOf (c :: (tail ++ rest))) = some r := by
    have some : (rules.find? fun r => r.part.isPrefixOf (c :: (tail ++ rest))).isSome = true := by
      rw [List.find?_isSome]
      exact ⟨r, member, (begins r member).mpr rfl⟩
    obtain ⟨r', first⟩ := Option.isSome_iff_exists.mp some
    rw [first, (begins r' (List.mem_of_find?_eq_some first)).mp (by simpa using List.find?_some first)]
  have behind : pass rules ((tail ++ rest).drop (r.part.length - 1)) = pass rules rest := by
    simp [split]
  rw [split, List.cons_append, pass, passFrom, found]
  simp only [passFrom_eq, behind]

/-- A part that no rule is for is kept. -/
theorem pass_other {parts : List (List Char)} (apart : Apart parts) (known : ∀ r ∈ rules, r.part ∈ parts)
    {p : List Char} (here : p ∈ parts) (other : ∀ r ∈ rules, r.part ≠ p) (rest : List Char) :
    pass rules (p ++ rest) = p ++ pass rules rest := by
  refine pass_append fun k bound r member begins => ?_
  obtain ⟨-, same⟩ := (apart.begins_iff here (known r member) bound rest).mp begins
  exact other r member same.symm

/-- A text is made of parts and of characters with which no part begins. -/
theorem text_induction {parts : List (List Char)} (filled : [] ∉ parts) {motive : List Char → Prop}
    (nil : motive []) (part : ∀ p ∈ parts, ∀ rest, motive rest → motive (p ++ rest))
    (plain : ∀ c rest, (∀ p ∈ parts, ¬ p <+: c :: rest) → motive rest → motive (c :: rest)) (text : List Char) :
    motive text := by
  induction size : text.length using Nat.strong_induction_on generalizing text with
  | _ n ih =>
    cases text with
    | nil => exact nil
    | cons c rest =>
      by_cases begins : ∃ p ∈ parts, p <+: c :: rest
      · obtain ⟨p, member, behind, split⟩ := begins
        have some : 0 < p.length := List.length_pos_iff.mpr fun empty => filled (empty ▸ member)
        have shorter : behind.length < n := by
          rw [← size, ← split, List.length_append]
          omega
        rw [← split]
        exact part p member behind (ih _ shorter behind rfl)
      · push Not at begins
        exact plain c rest begins (ih _ (by rw [← size]; exact Nat.lt_succ_self _) rest rfl)

theorem pass_nil (text : List Char) : pass [] text = text := by
  induction text with
  | nil => rfl
  | cons c rest ih => rw [pass_cons (by simp), ih]

/-- The order of the rules does not matter. -/
theorem pass_perm {rules' : List Rule} (apart : Apart (rules.map part)) (perm : rules.Perm rules')
    (text : List Char) : pass rules text = pass rules' text := by
  have apart' : Apart (rules'.map part) := apart.of_subperm (perm.symm.map part).subperm
  induction text using text_induction apart.filled with
  | nil => rfl
  | part p here rest ih =>
    obtain ⟨r, member, rfl⟩ := List.mem_map.mp here
    rw [pass_part apart member, pass_part apart' (perm.subset member), ih]
  | plain c rest none ih =>
    have plain : ∀ r ∈ rules, ¬ r.part <+: c :: rest := fun r member => none _ (List.mem_map_of_mem member)
    rw [pass_cons plain, pass_cons fun r member => plain r (perm.symm.subset member), ih]

def mismatches (a b : List Char) : Nat := (a.zip b).countP fun p => p.1 != p.2

theorem eq_of_mismatches {a b : List Char} (length : a.length = b.length) (none : mismatches a b = 0) : a = b := by
  induction a generalizing b with
  | nil => exact (List.length_eq_zero_iff.mp length.symm).symm
  | cons c a ih =>
    cases b with
    | nil => contradiction
    | cons d b =>
      simp only [mismatches, List.zip_cons_cons, List.countP_cons, Nat.add_eq_zero_iff] at none
      rw [ih (by simpa using length) none.1, show c = d by simpa using none.2]

/-- Two texts that differ in a number of places, where a part stands in the first and what replaces it in the
second. -/
inductive Swaps (r : Rule) : Nat → List Char → List Char → Prop where
  | nil : Swaps r 0 [] []
  | char {n : Nat} {t x : List Char} (c : Char) (tail : Swaps r n t x) : Swaps r n (c :: t) (c :: x)
  | swap {n : Nat} {t x : List Char} (tail : Swaps r n t x) : Swaps r (n + 1) (r.part ++ t) (r.new ++ x)

namespace Swaps

variable {n k : Nat} {t x y : List Char} {parts : List (List Char)}

theorem append (u : List Char) (swaps : Swaps r n t x) : Swaps r n (u ++ t) (u ++ x) := by
  induction u with
  | nil => exact swaps
  | cons c u ih => exact .char c ih

theorem length_eq (swaps : Swaps r n t x) : x.length + n * r.part.length = t.length + n * r.new.length := by
  induction swaps with
  | nil => simp
  | char c tail ih =>
    simp only [List.length_cons]
    omega
  | swap tail ih =>
    simp only [List.length_append, Nat.add_mul, Nat.one_mul]
    omega

theorem mismatches_eq (length : r.part.length = r.new.length) (swaps : Swaps r n t x) :
    mismatches t x = n * mismatches r.part r.new := by
  induction swaps with
  | nil => simp [mismatches]
  | char c tail ih => simpa [mismatches] using ih
  | swap tail ih =>
    rw [mismatches, List.zip_append length, List.countP_append, Nat.add_mul, Nat.one_mul, Nat.add_comm]
    exact congrArg (· + mismatches r.part r.new) ih

/-- Two texts tell in how many places they differ, unless what is put in is what was there. -/
theorem count_unique (swaps : Swaps r n t x) (swaps' : Swaps r k t x) : n = k ∨ r.new = r.part := by
  by_cases length : r.part.length = r.new.length
  · have same := (swaps.mismatches_eq length).symm.trans (swaps'.mismatches_eq length)
    rcases Nat.eq_or_lt_of_le (Nat.zero_le (mismatches r.part r.new)) with none | some
    · exact .inr (eq_of_mismatches length none.symm).symm
    · exact .inl (Nat.eq_of_mul_eq_mul_right some same)
  · have zero : ((n : ℤ) - k) * (r.part.length - r.new.length) = 0 := by
      have first : (x.length + n * r.part.length : ℤ) = t.length + n * r.new.length := mod_cast swaps.length_eq
      have second : (x.length + k * r.part.length : ℤ) = t.length + k * r.new.length := mod_cast swaps'.length_eq
      linear_combination first - second
    rcases mul_eq_zero.mp zero with counts | lengths
    · exact .inl (by omega)
    · exact absurd (by omega) length

theorem eq_self (same : r.new = r.part) (swaps : Swaps r n t x) : x = t := by
  induction swaps with
  | nil => rfl
  | char c tail ih => rw [ih]
  | swap tail ih => rw [ih, same]

/-- If as many places differ as there are, the second text is the first one with every part replaced. -/
theorem eq_pass (apart : Apart [r.part]) (swaps : Swaps r n t x) :
    n ≤ occurrences r.part t ∧ (occurrences r.part t = n → x = pass [r] t) := by
  induction swaps with
  | nil => exact ⟨Nat.zero_le _, fun _ => rfl⟩
  | char c tail ih =>
    obtain ⟨most, all⟩ := ih
    rw [occurrences_cons]
    refine ⟨by omega, fun count => ?_⟩
    split at count
    next => omega
    next plain => rw [pass_cons (by simpa using plain), all (by omega)]
  | swap tail ih =>
    obtain ⟨most, all⟩ := ih
    rw [apart.occurrences_append List.mem_cons_self List.mem_cons_self, if_pos rfl]
    refine ⟨by omega, fun count => ?_⟩
    rw [pass_part (by simpa using apart) List.mem_cons_self, all (by omega)]

/-- Another part that begins in the first text begins in the second. -/
theorem drop_prefix (apart : Apart parts) (here : r.part ∈ parts) {q : List Char} (there : q ∈ parts)
    (other : q ≠ r.part) (swaps : Swaps r n t x) (begins : q.drop k <+: t) : q.drop k <+: x := by
  induction swaps generalizing k with
  | nil => exact begins
  | char c tail ih =>
    rcases Nat.lt_or_ge k q.length with bound | beyond
    · rw [List.drop_eq_getElem_cons bound, List.cons_prefix_cons] at begins ⊢
      exact ⟨begins.1, ih begins.2⟩
    · simp [List.drop_eq_nil_of_le beyond]
  | swap tail ih =>
    rcases Nat.lt_or_ge k q.length with bound | beyond
    · exact absurd (apart.alone q there _ here k bound _ begins (List.prefix_append _ _)).2 other
    · simp [List.drop_eq_nil_of_le beyond]

theorem occurrences_le (apart : Apart parts) (here : r.part ∈ parts) {q : List Char} (there : q ∈ parts)
    (other : q ≠ r.part) (swaps : Swaps r n t x) : occurrences q t ≤ occurrences q x := by
  induction swaps with
  | nil => exact le_rfl
  | @char n t x c tail ih =>
    have kept : q <+: c :: t → q <+: c :: x := drop_prefix (k := 0) apart here there other (.char c tail)
    rw [occurrences_cons, occurrences_cons]
    by_cases begins : q <+: c :: t
    · rw [if_pos begins, if_pos (kept begins)]
      omega
    · rw [if_neg begins]
      omega
  | swap tail ih =>
    rw [apart.occurrences_append here there, if_neg (Ne.symm other), Nat.add_zero]
    exact ih.trans (occurrences_le_append _ _)

end Swaps

section OneMore

variable (apart : Apart ((rules ++ [r]).map part))

include apart in
/-- One more rule makes a difference where its part stands, and nowhere else. -/
theorem swaps_pass (text : List Char) :
    Swaps r (occurrences r.part text) (pass rules text) (pass (rules ++ [r]) text) := by
  have before : Apart (rules.map part) := apart.of_subperm ((List.sublist_append_left rules _).map part).subperm
  have last : r ∈ rules ++ [r] := by simp
  have other : ∀ r' ∈ rules, r'.part ≠ r.part := by
    have distinct := apart.distinct
    rw [List.map_append, List.nodup_append] at distinct
    intro r' member
    exact distinct.2.2 _ (List.mem_map_of_mem member) _ (by simp)
  induction text using text_induction apart.filled with
  | nil =>
    rw [occurrences_nil fun empty => apart.filled (empty ▸ List.mem_map_of_mem last)]
    exact .nil
  | part p here rest ih =>
    obtain ⟨r', member, rfl⟩ := List.mem_map.mp here
    rw [pass_part apart member, apart.occurrences_append here (List.mem_map_of_mem last)]
    rcases List.mem_append.mp member with old | new
    · rw [pass_part before old, if_neg (other r' old)]
      exact ih.append r'.new
    · obtain rfl := List.mem_singleton.mp new
      have known : ∀ old ∈ rules, old.part ∈ (rules ++ [r']).map part := fun old member =>
        List.mem_map_of_mem (List.mem_append_left _ member)
      rw [pass_other apart known here other, if_pos rfl]
      exact .swap ih
  | plain c rest none ih =>
    have plain : ∀ r' ∈ rules ++ [r], ¬ r'.part <+: c :: rest := fun r' member =>
      none _ (List.mem_map_of_mem member)
    rw [pass_cons plain, pass_cons fun r' old => plain r' (List.mem_append_left _ old), occurrences_cons,
      if_neg (plain r last)]
    exact .char c ih

include apart in
/-- A further pass does what a further rule does exactly if its part stands nowhere else after the others, or is
put in for itself. -/
theorem pass_pass_iff (text : List Char) :
    pass [r] (pass rules text) = pass (rules ++ [r]) text ↔
      r.new = r.part ∨ occurrences r.part (pass rules text) = occurrences r.part text := by
  have single : Apart ([r].map part) := apart.of_subperm ((List.sublist_append_right rules _).map part).subperm
  have together := swaps_pass apart text
  have alone : Swaps r (occurrences r.part (pass rules text)) (pass rules text) (pass [r] (pass rules text)) := by
    have swaps : Swaps r _ (pass [] (pass rules text)) _ := swaps_pass single (pass rules text)
    rwa [pass_nil] at swaps
  constructor
  · intro agree
    exact (alone.count_unique (agree ▸ together)).symm
  · rintro (same | count)
    · rw [together.eq_self same, alone.eq_self same]
    · exact ((together.eq_pass single).2 count).symm

end OneMore

/-- More rules lose no place of another part. -/
theorem occurrences_pass_le {q : List Char} (more : List Rule) (apart : Apart (q :: (rules ++ more).map part))
    (text : List Char) : occurrences q (pass rules text) ≤ occurrences q (pass (rules ++ more) text) := by
  induction more using List.reverseRecOn with
  | nil => rw [List.append_nil]
  | append_singleton more r ih =>
    rw [← List.append_assoc] at apart ⊢
    have here : r.part ∈ q :: (rules ++ more ++ [r]).map part := by simp
    have other : q ≠ r.part := by
      rintro rfl
      exact (List.nodup_cons.mp apart.distinct).1 (by simp)
    have all : Apart ((rules ++ more ++ [r]).map part) := apart.of_subperm (List.sublist_cons_self _ _).subperm
    have before : Apart (q :: (rules ++ more).map part) :=
      apart.of_subperm (((List.sublist_append_left _ [r]).map part).cons_cons q).subperm
    exact (ih before).trans ((swaps_pass all text).occurrences_le apart here List.mem_cons_self other)

/-- A pass makes no new place of another part if all parts begin with the same character, and that stands neither
in what is put in nor in the text, but where a part begins. -/
theorem occurrences_pass_eq (first : Char) {q : List Char} (apart : Apart (q :: rules.map part))
    (begin : ∀ p ∈ q :: rules.map part, p.head? = some first) (absent : ∀ r ∈ rules, first ∉ r.new)
    {text : List Char}
    (declared : ∀ rest, first :: rest <:+ text → ∃ p ∈ q :: rules.map part, p <+: first :: rest) :
    occurrences q (pass rules text) = occurrences q text := by
  have own : q ∈ q :: rules.map part := List.mem_cons_self
  obtain ⟨tail, rfl⟩ := List.head?_eq_some_iff.mp (begin q own)
  have before : Apart (rules.map part) := apart.of_subperm (List.sublist_cons_self _ _).subperm
  induction text using text_induction apart.filled with
  | nil => rfl
  | part p here rest ih =>
    have known := ih fun more inside => declared more (inside.trans (List.suffix_append p rest))
    rcases List.mem_cons.mp here with rfl | there
    · have others : ∀ r ∈ rules, r.part ≠ first :: tail := fun r member same =>
        (List.nodup_cons.mp apart.distinct).1 (same ▸ List.mem_map_of_mem member)
      rw [pass_other apart (fun r member => List.mem_cons_of_mem _ (List.mem_map_of_mem member)) own others,
        apart.occurrences_append own own, apart.occurrences_append own own, known]
    · have other : p ≠ first :: tail := fun same => (List.nodup_cons.mp apart.distinct).1 (same ▸ there)
      obtain ⟨r, member, rfl⟩ := List.mem_map.mp there
      have none : ∀ k < r.new.length, ¬ first :: tail <+: r.new.drop k ++ pass rules rest := by
        intro k bound begins
        rw [List.drop_eq_getElem_cons bound, List.cons_append, List.cons_prefix_cons] at begins
        exact absent r member (begins.1 ▸ List.getElem_mem bound)
      rw [pass_part before member, occurrences_append none, known, apart.occurrences_append here own,
        if_neg other, Nat.add_zero]
  | plain c rest none ih =>
    have known := ih fun more inside => declared more (inside.trans (List.suffix_cons c rest))
    have other : ∀ more, ¬ first :: tail <+: c :: more := by
      intro more begins
      obtain ⟨rfl, -⟩ := List.cons_prefix_cons.mp begins
      obtain ⟨p, member, here⟩ := declared rest List.suffix_rfl
      exact none p member here
    rw [pass_cons fun r member => none _ (List.mem_cons_of_mem _ (List.mem_map_of_mem member)),
      occurrences_cons, occurrences_cons, if_neg (other _), if_neg (other _), known]

end Rule
end ApiAtlas
