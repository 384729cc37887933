import ApiAtlas.Document.Server
import ApiAtlas.Proofs.Text.Replacing

/-! The address of a server with the defaults of its variables in it. They are put in one after the other, which is
the same as all at once if no placeholder comes into being that was not declared in the address. -/
namespace ApiAtlas.Server

def rule (x : String × ServerVariable) : Rule := ⟨(placeholder x.1).toList, x.2.default.toList⟩

/-- The address with the default of each variable in its place, all of them at once. -/
def substituted (s : Server) : String := .ofList (Rule.pass (s.vars.map rule) s.url.toList)

/-- The placeholders of the variables share no character, wherever they stand. -/
def Marked (s : Server) : Prop := Apart (s.vars.map fun x => (placeholder x.1).toList)

/-- Some variables make no new place for another one. -/
def Spares (s : Server) (vars : Table ServerVariable) (x : String × ServerVariable) : Prop :=
  occurrences (placeholder x.1).toList { s with vars }.substituted.toList =
    occurrences (placeholder x.1).toList s.url.toList

variable {s : Server} {first vars : Table ServerVariable} {x : String × ServerVariable}

theorem marked_iff : s.Marked ↔ Apart ((s.vars.map rule).map Rule.part) := by
  rw [List.map_map]
  rfl

theorem Marked.of_subperm (marked : s.Marked) (sub : vars.Subperm s.vars) : { s with vars }.Marked := by
  obtain ⟨kept, perm, sublist⟩ := sub
  exact Apart.of_subperm marked ⟨_, perm.map _, sublist.map _⟩

theorem toList_placeholder (name : String) :
    (placeholder name).toList = '\x7b' :: (name.toList ++ ['\x7d']) := by
  simp [placeholder]

/-- A name without a closing brace is read back from what begins with its placeholder. -/
theorem takeWhile_of_placeholder {name : String} (plain : '\x7d' ∉ name.toList) {text : List Char}
    (begins : (placeholder name).toList <+: text) : text.tail.takeWhile (· != '\x7d') = name.toList := by
  obtain ⟨rest, rfl⟩ := begins
  have inside : ∀ c ∈ name.toList, (c != '\x7d') = true := fun c member => by
    simpa using fun same : c = '\x7d' => plain (same ▸ member)
  rw [toList_placeholder, List.cons_append, List.tail_cons, List.append_assoc, List.takeWhile_append_of_pos inside]
  simp

/-- Placeholders share no character if the names are distinct and have no braces in them. -/
theorem marked_of_plain (distinct : s.vars.keys.Nodup)
    (plain : ∀ n ∈ s.vars.keys, '\x7b' ∉ n.toList ∧ '\x7d' ∉ n.toList) : s.Marked := by
  have same : s.Marked = Apart (s.vars.keys.map fun n => (placeholder n).toList) := by
    rw [Table.keys, List.map_map]
    rfl
  rw [same]
  have injective : ∀ n ∈ s.vars.keys, ∀ m ∈ s.vars.keys, ∀ text : List Char,
      (placeholder n).toList <+: text → (placeholder m).toList <+: text → n = m := by
    intro n here m there text begins begins'
    rw [← String.toList_inj, ← takeWhile_of_placeholder (plain n here).2 begins,
      takeWhile_of_placeholder (plain m there).2 begins']
  refine ⟨?_, ?_, ?_⟩
  · simp [toList_placeholder]
  · refine distinct.map_on fun n here m there e => ?_
    exact injective n here m there _ List.prefix_rfl (e ▸ List.prefix_rfl)
  · simp only [List.forall_mem_map]
    intro n here m there k bound text begins begins'
    cases k with
    | zero => exact ⟨rfl, by rw [injective n here m there text begins begins']⟩
    | succ k =>
      obtain ⟨rest, rfl⟩ := begins'
      rw [toList_placeholder, List.length_cons, Nat.add_lt_add_iff_right] at bound
      rw [toList_placeholder, toList_placeholder, List.drop_succ_cons, List.cons_append,
        List.drop_eq_getElem_cons bound, List.cons_prefix_cons] at begins
      have inside : '\x7b' ∈ n.toList ++ ['\x7d'] := begins.1 ▸ List.getElem_mem bound
      simp [(plain n here).1] at inside

theorem toList_expandedUrl_concat : { s with vars := first ++ [x] }.expandedUrl.toList =
    Rule.pass [rule x] { s with vars := first }.expandedUrl.toList := by
  simp only [expandedUrl, List.foldl_append, List.foldl_cons, List.foldl_nil, replaceAll, String.toList_ofList,
    Rule.replaceFrom_eq]
  rfl

theorem toList_substituted : s.substituted.toList = Rule.pass (s.vars.map rule) s.url.toList :=
  String.toList_ofList

/-- One more variable is put in as it should be exactly if those before it make no new place for it, or it stands
for itself. -/
theorem expandedUrl_concat_iff (marked : { s with vars := first ++ [x] }.Marked)
    (before : { s with vars := first }.expandedUrl = { s with vars := first }.substituted) :
    { s with vars := first ++ [x] }.expandedUrl = { s with vars := first ++ [x] }.substituted ↔
      x.2.default = placeholder x.1 ∨ s.Spares first x := by
  rw [marked_iff, List.map_append] at marked
  rw [← String.toList_inj, toList_expandedUrl_concat, before, toList_substituted, toList_substituted,
    List.map_append]
  refine (Rule.pass_pass_iff marked s.url.toList).trans (or_congr String.toList_inj ?_)
  rw [Spares, toList_substituted]
  rfl

/-- Variables are put in one after the other as they should be exactly if each is, after those before it. -/
theorem expandedUrl_prefixes_iff (marked : s.Marked) :
    (∀ first, first <+: s.vars → { s with vars := first }.expandedUrl = { s with vars := first }.substituted) ↔
      ∀ first x, first ++ [x] <+: s.vars → x.2.default = placeholder x.1 ∨ s.Spares first x := by
  have kept : ∀ first, first <+: s.vars → { s with vars := first }.Marked := fun first inside =>
    marked.of_subperm inside.sublist.subperm
  constructor
  · intro all first x inside
    have before := all first ((List.prefix_append _ _).trans inside)
    exact (expandedUrl_concat_iff (kept _ inside) before).mp (all _ inside)
  · intro each first
    induction first using List.reverseRecOn with
    | nil =>
      intro _
      simp [expandedUrl, substituted, Rule.pass_nil]
    | append_singleton first x ih =>
      intro inside
      have before := ih ((List.prefix_append _ _).trans inside)
      exact (expandedUrl_concat_iff (kept _ inside) before).mpr (each first x inside)

/-- The order of the variables does not matter if all are put in at once. -/
theorem substituted_perm (marked : s.Marked) (perm : s.vars.Perm vars) :
    { s with vars }.substituted = s.substituted := by
  rw [substituted, substituted, Rule.pass_perm (marked_iff.mp marked) (perm.map rule)]

/-- Variables that spare another one do so without some of them. -/
theorem Spares.of_append {more : Table ServerVariable}
    (marked : { s with vars := x :: (first ++ more) }.Marked) (spares : s.Spares (first ++ more) x) :
    s.Spares first x := by
  rw [marked_iff, List.map_cons, List.map_cons, List.map_append] at marked
  have before : Apart ((rule x).part :: ([] ++ first.map rule).map Rule.part) :=
    marked.of_subperm (((List.sublist_append_left _ _).map _).cons_cons _).subperm
  have more := Rule.occurrences_pass_le (more.map rule) marked s.url.toList
  have fewer := Rule.occurrences_pass_le (first.map rule) before s.url.toList
  rw [Spares, toList_substituted, List.map_append] at spares
  rw [Rule.pass_nil, List.nil_append] at fewer
  rw [Spares, toList_substituted]
  exact Nat.le_antisymm (more.trans_eq spares) fewer

/-- The same for every choice and order of the variables: none of the others may make a new place for one. -/
theorem expandedUrl_subperms_iff (marked : s.Marked) :
    (∀ chosen, chosen.Subperm s.vars →
      { s with vars := chosen }.expandedUrl = { s with vars := chosen }.substituted) ↔
      ∀ x others, s.vars.Perm (x :: others) → x.2.default = placeholder x.1 ∨ s.Spares others x := by
  constructor
  · intro all x others perm
    have whole : (others ++ [x]).Perm s.vars := (List.perm_append_singleton x others).trans perm.symm
    have here : { s with vars := others ++ [x] }.Marked := marked.of_subperm whole.subperm
    refine (expandedUrl_prefixes_iff here).mp (fun first inside => ?_) others x List.prefix_rfl
    exact all first ((List.IsPrefix.sublist inside).subperm.trans whole.subperm)
  · intro each chosen sub
    have here : { s with vars := chosen }.Marked := marked.of_subperm sub
    refine (expandedUrl_prefixes_iff here).mpr (fun first x inside => ?_) chosen List.prefix_rfl
    obtain ⟨all, perm, within⟩ := List.subperm_iff.mp ((List.IsPrefix.sublist inside).subperm.trans sub)
    obtain ⟨more, split⟩ := within.exists_perm_append
    have whole : s.vars.Perm (x :: (first ++ more)) := by
      refine perm.symm.trans (split.trans ?_)
      rw [List.append_assoc]
      exact List.perm_middle
    exact (each x _ whole).imp_right (Spares.of_append (marked.of_subperm whole.symm.subperm))

/-- Braces stand around the names of variables in the address, and nowhere else. -/
structure Plain (s : Server) : Prop where
  distinct : s.vars.keys.Nodup
  names : ∀ n ∈ s.vars.keys, '\x7b' ∉ n.toList ∧ '\x7d' ∉ n.toList
  defaults : ∀ x ∈ s.vars, '\x7b' ∉ x.2.default.toList
  declared : ∀ t ∈ s.url.toList.tails, t.head? = some '\x7b' → ∃ x ∈ s.vars, (placeholder x.1).toList <+: t

namespace Plain

theorem marked (plain : s.Plain) : s.Marked := marked_of_plain plain.distinct plain.names

theorem spares (plain : s.Plain) {others : Table ServerVariable} (perm : s.vars.Perm (x :: others)) :
    s.Spares others x := by
  have apart : Apart ((rule x).part :: (others.map rule).map Rule.part) :=
    marked_iff.mp (plain.marked.of_subperm perm.symm.subperm)
  rw [Spares, toList_substituted]
  refine Rule.occurrences_pass_eq '\x7b' apart ?_ ?_ ?_
  · simp only [List.forall_mem_cons, List.forall_mem_map, rule, toList_placeholder, List.head?_cons, implies_true,
      and_self]
  · simp only [List.forall_mem_map]
    exact fun y member => plain.defaults y (perm.symm.subset (List.mem_cons_of_mem x member))
  · intro rest inside
    obtain ⟨y, member, begins⟩ := plain.declared _ ((List.mem_tails _ _).mpr inside) rfl
    have known : (rule y).part ∈ ((x :: others).map rule).map Rule.part :=
      List.mem_map_of_mem (List.mem_map_of_mem (perm.subset member))
    exact ⟨_, known, begins⟩

/-- Then the defaults are in the address as if all were put in at once. -/
theorem expandedUrl_eq (plain : s.Plain) : s.expandedUrl = s.substituted :=
  (expandedUrl_subperms_iff plain.marked).mpr (fun _ _ perm => .inr (plain.spares perm)) _ (List.Subperm.refl _)

end Plain

/-- The address of a server has the defaults in it as if all were put in at once, however many of the variables are
declared and in whichever order, exactly if the others never make a new place for one, unless it stands for itself.
For the order of declaration only those before it matter. -/
theorem expandedUrl_eq_substituted_iff (marked : s.Marked) :
    ((∀ first, first <+: s.vars → { s with vars := first }.expandedUrl = { s with vars := first }.substituted) ↔
      ∀ first x, first ++ [x] <+: s.vars → x.2.default = placeholder x.1 ∨ s.Spares first x) ∧
    ((∀ chosen, chosen.Subperm s.vars →
      { s with vars := chosen }.expandedUrl = { s with vars := chosen }.substituted) ↔
      ∀ x others, s.vars.Perm (x :: others) → x.2.default = placeholder x.1 ∨ s.Spares others x) ∧
    ∀ vars, s.vars.Perm vars → { s with vars }.substituted = s.substituted :=
  ⟨expandedUrl_prefixes_iff marked, expandedUrl_subperms_iff marked, fun _ perm => substituted_perm marked perm⟩

def regional : Server where
  url := "https://\x7bregion\x7d.api.example.com:\x7bport\x7d/v1"
  vars := [("region", { default := "eu" }), ("port", { default := "8443" })]

theorem regional_plain : regional.Plain := ⟨by decide, by decide, by decide, by decide⟩

theorem regional_ports_first :
    regional.Marked ∧ { regional with vars := regional.vars.reverse }.expandedUrl =
      "https://eu.api.example.com:8443/v1" := by
  have marked := regional_plain.marked
  obtain ⟨-, every, order⟩ := expandedUrl_eq_substituted_iff marked
  refine ⟨marked, ?_⟩
  rw [every.mpr (fun _ _ perm => .inr (regional_plain.spares perm)) _ (List.reverse_perm _).subperm,
    order _ (List.reverse_perm _).symm]
  decide

def nested : Server where
  url := "https://\x7bhost\x7d/v1"
  vars := [("host", { default := "\x7bregion\x7d.example.com" }), ("region", { default := "eu" })]

/-- What a default puts in is replaced in turn, in one order of the variables and not in the other. -/
theorem nested_replaced_in_turn : nested.Marked ∧ nested.expandedUrl ≠ nested.substituted ∧
    { nested with vars := nested.vars.reverse }.expandedUrl ≠ nested.expandedUrl :=
  ⟨marked_of_plain (by decide) (by decide), by decide, by decide⟩

end ApiAtlas.Server
