import ApiAtlas.Proofs.Graph.SyntaxTree
import ApiAtlas.Graph.Catalog

/-! What the check of a catalog sees of a query. It looks at the fields that an operation selects itself,
those of fragments in place included; a fragment that is called by name is in the query with its name only,
and what it selects on the root type is not looked at. -/
namespace ApiAtlas.Graph

namespace SelectionTree

def calls : SelectionTree → List String
  | nil => []
  | field _ _ others => others.calls
  | spread name others => name :: others.calls
  | inPlace inside others => inside.calls ++ others.calls

/-- A field is selected on the type that the selections are made on: by themselves, or by a fragment that
they call, through any number of others. -/
inductive Selects (fragments : List (String × SelectionTree)) : SelectionTree → RootField → Prop
  | own {t f} : f ∈ t.fields → Selects fragments t f
  | called {t name body f} : name ∈ t.calls → (name, body) ∈ fragments → Selects fragments body f →
    Selects fragments t f

end SelectionTree

namespace QueryTree

variable {t : QueryTree} {name : Option String} {o : OperationTree}

/-- The operation that is run. -/
theorem select_summary (run : t.operation? name = some o) : t.summary.select name = .ok o.summary := by
  cases name with
  | some name =>
    have found : t.summary.operations.find? (·.name = some name) = some o.summary := by
      rw [summary, List.find?_map]
      exact congrArg (Option.map OperationTree.summary) run
    simp only [Query.select, found]
  | none =>
    simp only [operation?] at run
    split at run
    next only alone =>
      obtain rfl := Option.some.inj run
      simp only [Query.select, summary, alone, List.map_cons, List.map_nil]
    next => contradiction

end QueryTree

namespace Catalog

variable {c : Catalog} {q : Query} {t : QueryTree} {name : Option String} {o : OperationTree} {root : String}

theorem unknownField_mem_fieldProblems {kind : OperationKind} {f : RootField} {field : String} :
    .unknownField field root ∈ c.fieldProblems kind root f ↔
      f.name = field ∧ FullType.isReserved field = false ∧ c.find? kind field = none := by
  by_cases reserved : FullType.isReserved f.name = true
  · have none : ¬ (f.name = field ∧ FullType.isReserved field = false ∧ c.find? kind field = none) := by
      rintro ⟨rfl, open_, -⟩
      rw [reserved] at open_
      contradiction
    simp [fieldProblems, reserved, none]
  · have open_ : FullType.isReserved f.name = false := by simpa using reserved
    cases found : c.find? kind f.name with
    | none =>
      simp only [fieldProblems, open_, found, Bool.false_eq_true, if_false, List.mem_singleton,
        CheckProblem.unknownField.injEq, and_true]
      constructor
      · rintro rfl
        exact ⟨rfl, open_, found⟩
      · exact fun same => same.1.symm
    | some declared =>
      have known : ¬ (f.name = field ∧ FullType.isReserved field = false ∧ c.find? kind field = none) := by
        rintro ⟨rfl, -, unknown⟩
        rw [found] at unknown
        contradiction
      simp [fieldProblems, open_, found, known]

theorem check_of_unsupported (run : t.operation? name = some o) (missing : c.roots.lookup o.kind = none) :
    c.check t.summary name = [.unsupported o.kind] := by
  simp only [check, QueryTree.select_summary run, OperationTree.summary, missing]

theorem check_of_root (run : t.operation? name = some o) (declared : c.roots.lookup o.kind = some root) :
    c.check t.summary name = o.selections.fields.flatMap (c.fieldProblems o.kind root) := by
  simp only [check, QueryTree.select_summary run, OperationTree.summary, declared]

/-- The check of a query that is read reports the fields that the operation selects itself and the catalog
does not have, and no others; if the schema has no such operations it reports that. -/
theorem unknown_fields_of_check (c : Catalog) {text : String} {q : Query}
    (accepted : Query.read text = .ok q) :
    (∃ t : QueryTree, t.IsOf text) ∧
      ∀ t : QueryTree, t.IsOf text → ∀ name o, t.operation? name = some o →
        match c.roots.lookup o.kind with
        | none => c.check q name = [.unsupported o.kind]
        | some root => ∀ field, .unknownField field root ∈ c.check q name ↔
            field ∈ o.selections.fields.map RootField.name ∧ FullType.isReserved field = false ∧
              c.find? o.kind field = none := by
  refine ⟨QueryTree.exists_of_read accepted, fun t tree name o run => ?_⟩
  rw [← QueryTree.summary_of_read accepted tree]
  cases declared : c.roots.lookup o.kind with
  | none => exact check_of_unsupported run declared
  | some root =>
    intro field
    rw [check_of_root run declared]
    simp only [List.mem_flatMap, unknownField_mem_fieldProblems, List.mem_map]
    constructor
    · rintro ⟨f, selected, rfl, unknown⟩
      exact ⟨⟨f, selected, rfl⟩, unknown⟩
    · rintro ⟨⟨f, selected, rfl⟩, unknown⟩
      exact ⟨f, selected, rfl, unknown⟩

end Catalog

def Introspection.plain : Introspection where
  query := some "Query"
  types := [{ kind := .object, name := some "Query", fields := some [
    { name := "ping", type := .base .scalar (some "String") }] }]

/-- A field that the schema does not have, in a fragment in place. -/
theorem Catalog.unknown_field_reported :
    let c := Catalog.build "" Introspection.plain
    ∃ q, Query.read "\x7b ... \x7b nope \x7d \x7d" = .ok q ∧
      .unknownField "nope" "Query" ∈ c.check q none := by
  intro c
  let t : QueryTree :=
    { operations := [{ kind := .query, selections := .inPlace (.field ⟨"nope", none, []⟩ .nil .nil) .nil }] }
  have lexed : Token.ofText "\x7b ... \x7b nope \x7d \x7d".toList =
      ([⟨.punct '\x7b', 0, "\x7b"⟩, ⟨.spread, 2, "..."⟩, ⟨.punct '\x7b', 6, "\x7b"⟩, ⟨.name, 8, "nope"⟩,
        ⟨.punct '\x7d', 13, "\x7d"⟩, ⟨.punct '\x7d', 15, "\x7d"⟩], .complete 16) := by decide +kernel
  have tree : t.IsOf "\x7b ... \x7b nope \x7d \x7d" := by
    rw [QueryTree.IsOf, lexed]
    have field := SelectionTree.Spelled.leaf (d := 0) (.plain ⟨⟨.name, 8, "nope"⟩, rfl⟩ .absent .nil)
      (.stop ⟨⟨.punct '\x7d', 13, "\x7d"⟩, rfl⟩)
    have fragment := SelectionTree.Spelled.inPlace ⟨⟨.spread, 2, "..."⟩, rfl⟩ ⟨⟨.punct '\x7b', 6, "\x7b"⟩, rfl⟩
      .absent .nil (Nat.zero_le _) (by simp) field (.stop ⟨⟨.punct '\x7d', 15, "\x7d"⟩, rfl⟩)
    exact .operation (.bare (.mk ⟨⟨.punct '\x7b', 0, "\x7b"⟩, rfl⟩ (Nat.zero_le _) (by simp) fragment)) .nil
  have accepted := QueryTree.read_of_isOf tree (congrArg Prod.snd lexed) (List.cons_ne_nil _ _)
  have all := (Catalog.unknown_fields_of_check c accepted).2 t tree none _ rfl
  exact ⟨_, accepted, (all "nope").mpr ⟨List.mem_cons_self, by decide, by decide +kernel⟩⟩

/-- A field that the schema does not have, in a fragment that is called by name. -/
theorem Catalog.unknown_field_called :
    let c := Catalog.build "" Introspection.plain
    let text := "\x7b ...F \x7d fragment F on Query \x7b nope \x7d"
    let t : QueryTree :=
      { operations := [{ kind := .query, selections := .spread "F" .nil }],
        fragments := [("F", .field ⟨"nope", none, []⟩ .nil .nil)] }
    ∃ q o, Query.read text = .ok q ∧ t.IsOf text ∧ t.operation? none = some o ∧
      o.selections.Selects t.fragments ⟨"nope", none, []⟩ ∧ FullType.isReserved "nope" = false ∧
      c.find? o.kind "nope" = none ∧ c.check q none = [] := by
  intro c text t
  have lexed : Token.ofText text.toList =
      ([⟨.punct '\x7b', 0, "\x7b"⟩, ⟨.spread, 2, "..."⟩, ⟨.name, 5, "F"⟩, ⟨.punct '\x7d', 7, "\x7d"⟩,
        ⟨.name, 9, "fragment"⟩, ⟨.name, 18, "F"⟩, ⟨.name, 20, "on"⟩, ⟨.name, 23, "Query"⟩,
        ⟨.punct '\x7b', 29, "\x7b"⟩, ⟨.name, 31, "nope"⟩, ⟨.punct '\x7d', 36, "\x7d"⟩], .complete 37) := by
    decide +kernel
  have call := SelectionTree.Spelled.spread (d := 0) ⟨⟨.spread, 2, "..."⟩, rfl⟩ ⟨⟨.name, 5, "F"⟩, rfl⟩
    (by decide) .nil (.stop ⟨⟨.punct '\x7d', 7, "\x7d"⟩, rfl⟩)
  have field := SelectionTree.Spelled.leaf (d := 1) (.plain ⟨⟨.name, 31, "nope"⟩, rfl⟩ .absent .nil)
    (.stop ⟨⟨.punct '\x7d', 36, "\x7d"⟩, rfl⟩)
  have fragment := FragmentSpelled.mk ⟨⟨.name, 9, "fragment"⟩, rfl, rfl⟩ ⟨⟨.name, 18, "F"⟩, rfl⟩
    ⟨⟨.name, 20, "on"⟩, rfl, rfl⟩ ⟨⟨.name, 23, "Query"⟩, rfl⟩ (by decide) .nil
    (.mk ⟨⟨.punct '\x7b', 29, "\x7b"⟩, rfl⟩ (by decide) (by simp) field)
  have tree : t.IsOf text := by
    rw [QueryTree.IsOf, lexed]
    exact .operation (.bare (.mk ⟨⟨.punct '\x7b', 0, "\x7b"⟩, rfl⟩ (Nat.zero_le _) (by simp) call))
      (.fragment fragment .nil)
  have accepted := QueryTree.read_of_isOf tree (congrArg Prod.snd lexed) (List.cons_ne_nil _ _)
  have run : t.operation? none = some { kind := .query, selections := .spread "F" .nil } := rfl
  have selects : (SelectionTree.spread "F" .nil).Selects t.fragments ⟨"nope", none, []⟩ :=
    .called List.mem_cons_self List.mem_cons_self (.own List.mem_cons_self)
  have declared : c.roots.lookup .query = some "Query" := rfl
  exact ⟨_, _, accepted, tree, run, selects, by decide, by decide +kernel, Catalog.check_of_root run declared⟩

end ApiAtlas.Graph
