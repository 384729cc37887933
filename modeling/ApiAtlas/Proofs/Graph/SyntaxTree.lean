import ApiAtlas.Proofs.Graph.Completeness

/-! Syntax trees of queries. A summary leaves out what is selected below the fields on the root type and in
fragments that are called by name; a tree has all of it. Trees refine the grammar: the tokens of a query have
a tree exactly if they are grammatical, and what the grammar has as their summary is the summary of the
tree. -/
namespace ApiAtlas.Graph

open Grammar
open Query (maxDepth)

/-- Selections, each in front of others: fields with what is selected below them, fragments by name and
fragments in place. -/
inductive SelectionTree where
  | nil
  | field (f : RootField) (below others : SelectionTree)
  | spread (name : String) (others : SelectionTree)
  | inPlace (inside others : SelectionTree)

namespace SelectionTree

/-- The fields on the type that the selections are made on, those of fragments in place included. -/
def fields : SelectionTree → List RootField
  | nil => []
  | field f _ others => f :: others.fields
  | spread _ others => others.fields
  | inPlace inside others => inside.fields ++ others.fields

inductive Spelled : Nat → List Token → SelectionTree → Prop
  | stop {d} (c : Punct '\x7d') : Spelled d [c.1] nil
  | leaf {d ts f us others} : FieldHead d ts f → Spelled d us others →
    Spelled d (ts ++ us) (field f nil others)
  | nested {d ts f us below vs others} (o : Punct '\x7b') : FieldHead d ts f → d + 1 ≤ maxDepth →
    below ≠ nil → Spelled (d + 1) us below → Spelled d vs others →
    Spelled d (ts ++ o.1 :: us ++ vs) (field f below others)
  | spread {d ds us others} (dots : TokenOf .spread) (name : Name) : name.1.text ≠ "on" →
    Directives d ds → Spelled d us others →
    Spelled d (dots.1 :: name.1 :: ds ++ us) (spread name.1.text others)
  | inPlace {d cs ds us inside vs others} (dots : TokenOf .spread) (o : Punct '\x7b') :
    TypeCondition cs → Directives d ds → d ≤ maxDepth → inside ≠ nil → Spelled d us inside →
    Spelled d vs others → Spelled d (dots.1 :: (cs ++ (ds ++ o.1 :: us)) ++ vs) (inPlace inside others)

inductive Enclosed (d : Nat) : List Token → SelectionTree → Prop
  | mk {ts t} (o : Punct '\x7b') : d ≤ maxDepth → t ≠ nil → Spelled d ts t → Enclosed d (o.1 :: ts) t

def fieldsAt (t : SelectionTree) (d : Nat) : List RootField := if d = 0 then t.fields else []

variable {d : Nat} {ts us : List Token} {t : SelectionTree}

/-- Grammatical selections have a tree. -/
theorem exists_enclosed {fields : List RootField} (read : SelectionSet d ts fields) :
    ∃ t, Enclosed d ts t ∧ fields = t.fieldsAt d := by
  refine @SelectionSet.rec (fun d ts fields _ => ∃ t, Enclosed d ts t ∧ fields = t.fieldsAt d)
    (fun d ts fields _ => ∃ t, Spelled d ts t ∧ (d = 0 → fields = t.fields))
    (fun d ts fields _ => ∀ us others, Spelled d us others →
      ∃ t, t ≠ nil ∧ Spelled d (ts ++ us) t ∧ (d = 0 → t.fields = fields ++ others.fields))
    ?set ?stop ?next ?leaf ?nested ?spread ?inPlace d ts fields read
  case set =>
    rintro d ts fields us others o shallow - - first ⟨rest, spelled, same⟩
    obtain ⟨t, some, whole, all⟩ := first us rest spelled
    refine ⟨t, .mk o shallow some whole, ?_⟩
    by_cases root : d = 0
    · simp only [fieldsAt, root, if_true, all root, same root]
    · simp only [fieldsAt, root, if_false]
  case stop => exact fun c => ⟨nil, .stop c, fun _ => rfl⟩
  case next =>
    rintro d ts fields us others - - first ⟨rest, spelled, same⟩
    obtain ⟨t, -, whole, all⟩ := first us rest spelled
    exact ⟨t, whole, fun root => by rw [all root, same root]⟩
  case leaf =>
    exact fun {_ _ f} head us others behind => ⟨field f nil others, nofun, .leaf head behind, fun _ => rfl⟩
  case nested =>
    rintro d ts f us inner head - ⟨below, ⟨o, shallow, some, inside⟩, -⟩ vs others behind
    exact ⟨field f below others, nofun, .nested o head shallow some inside behind, fun _ => rfl⟩
  case spread =>
    exact fun dots name other directed us others behind =>
      ⟨spread name.1.text others, nofun, .spread dots name other directed behind, fun _ => rfl⟩
  case inPlace =>
    rintro d cs ds ts fields dots condition directed - ⟨inside, ⟨o, shallow, some, spelled⟩, same⟩ us
      others behind
    refine ⟨inPlace inside others, nofun, .inPlace dots o condition directed shallow some spelled behind,
      fun root => ?_⟩
    simp only [same, fieldsAt, root, if_true]
    rfl

/-- What a tree says is grammatical, in front of a closing brace and between braces. -/
structure Grammatical (d : Nat) (ts : List Token) (t : SelectionTree) : Prop where
  open_ : ∃ fields, Selections d ts fields ∧ (d = 0 → fields = t.fields)
  closed : ∀ o : Punct '\x7b', d ≤ maxDepth → t ≠ nil → SelectionSet d (o.1 :: ts) (t.fieldsAt d)

theorem Grammatical.next {fields : List RootField} {others : SelectionTree}
    (first : Selection d ts fields) (behind : Grammatical d us others)
    (all : d = 0 → t.fields = fields ++ others.fields) : Grammatical d (ts ++ us) t := by
  obtain ⟨rest, more, same⟩ := behind.open_
  constructor
  · exact ⟨_, .next first more, fun root => by rw [all root, same root]⟩
  · intro o shallow _
    have whole := SelectionSet.mk o shallow first more
    by_cases root : d = 0
    · simpa only [fieldsAt, root, if_true, all root, same root] using whole
    · simpa only [fieldsAt, root, if_false] using whole

theorem grammatical_of_spelled (spelled : Spelled d ts t) : Grammatical d ts t := by
  induction spelled with
  | stop c => exact ⟨⟨[], .stop c, fun _ => rfl⟩, fun _ _ some => absurd rfl some⟩
  | leaf head _ behind => exact .next (.leaf head) behind fun _ => rfl
  | nested o head shallow some _ _ inside behind =>
    exact .next (.nested head (inside.closed o shallow some)) behind fun _ => rfl
  | spread dots name other directed _ behind =>
    exact .next (.spread dots name other directed) behind fun _ => rfl
  | inPlace dots o condition directed shallow some _ _ inside behind =>
    refine .next (.inline dots condition directed (inside.closed o shallow some)) behind fun root => ?_
    simp only [fieldsAt, root, if_true]
    rfl

theorem selectionSet_iff {fields : List RootField} :
    SelectionSet d ts fields ↔ ∃ t, Enclosed d ts t ∧ fields = t.fieldsAt d := by
  refine ⟨exists_enclosed, ?_⟩
  rintro ⟨t, ⟨o, shallow, some, spelled⟩, rfl⟩
  exact (grammatical_of_spelled spelled).closed o shallow some

end SelectionTree

structure OperationTree where
  kind : OperationKind
  name : Option String := none
  vars : List Variable := []
  selections : SelectionTree

namespace OperationTree

def summary (o : OperationTree) : OperationDefinition := ⟨o.kind, o.name, o.vars, o.selections.fields⟩

inductive Spelled (source : List Char) : List Token → OperationTree → Prop
  | bare {ts t} : SelectionTree.Enclosed 0 ts t → Spelled source ts { kind := .query, selections := t }
  | keyword {kind ns called vs vars ds ts t} (word : Word (OperationKind.text kind)) :
    OperationName ns called → Variables source vs vars → Directives 0 ds → SelectionTree.Enclosed 0 ts t →
    Spelled source (word.1 :: (ns ++ (vs ++ (ds ++ ts)))) ⟨kind, called, vars, t⟩

theorem operation_iff {source : List Char} {ts : List Token} {o : OperationDefinition} :
    Grammar.Operation source ts o ↔ ∃ t, Spelled source ts t ∧ t.summary = o := by
  constructor
  · rintro (set | ⟨word, named, declared, directed, set⟩)
    · obtain ⟨t, spelled, rfl⟩ := SelectionTree.exists_enclosed set
      exact ⟨_, .bare spelled, rfl⟩
    · obtain ⟨t, spelled, rfl⟩ := SelectionTree.exists_enclosed set
      exact ⟨_, .keyword word named declared directed spelled, rfl⟩
  · rintro ⟨_, spelled | ⟨word, named, declared, directed, spelled⟩, rfl⟩
    · exact .bare (SelectionTree.selectionSet_iff.mpr ⟨_, spelled, rfl⟩)
    · exact .keyword word named declared directed (SelectionTree.selectionSet_iff.mpr ⟨_, spelled, rfl⟩)

end OperationTree

/-- A fragment with its name. Its selections lie one deeper than those of an operation. -/
inductive FragmentSpelled : List Token → String × SelectionTree → Prop
  | mk {ds ts t} (word : Word "fragment") (name : Name) (on : Word "on") (type : Name) :
    name.1.text ≠ "on" → Directives 0 ds → SelectionTree.Enclosed 1 ts t →
    FragmentSpelled (word.1 :: name.1 :: on.1 :: type.1 :: (ds ++ ts)) (name.1.text, t)

theorem fragment_iff {ts : List Token} {name : String} :
    Fragment ts name ↔ ∃ t, FragmentSpelled ts (name, t) := by
  constructor
  · rintro ⟨word, n, on, type, other, directed, set⟩
    obtain ⟨t, spelled, -⟩ := SelectionTree.exists_enclosed set
    exact ⟨t, .mk word n on type other directed spelled⟩
  · rintro ⟨t, ⟨word, n, on, type, other, directed, spelled⟩⟩
    exact .mk word n on type other directed (SelectionTree.selectionSet_iff.mpr ⟨_, spelled, rfl⟩)

structure QueryTree where
  operations : List OperationTree := []
  fragments : List (String × SelectionTree) := []

namespace QueryTree

def summary (t : QueryTree) : Query := ⟨t.operations.map OperationTree.summary, t.fragments.map Prod.fst⟩

def operation? (t : QueryTree) (name : Option String) : Option OperationTree :=
  match name with
  | some name => t.operations.find? (·.name = some name)
  | none =>
    match t.operations with
    | [o] => some o
    | _ => none

inductive Spelled (source : List Char) : List Token → QueryTree → Prop
  | nil : Spelled source [] {}
  | operation {ts o us t} : OperationTree.Spelled source ts o → Spelled source us t →
    Spelled source (ts ++ us) { t with operations := o :: t.operations }
  | fragment {ts f us t} : FragmentSpelled ts f → Spelled source us t →
    Spelled source (ts ++ us) { t with fragments := f :: t.fragments }

def IsOf (t : QueryTree) (text : String) : Prop := Spelled text.toList (Token.ofText text.toList).1 t

variable {source : List Char} {ts : List Token} {q : Query}

theorem definitions_iff : Definitions source ts q ↔ ∃ t, Spelled source ts t ∧ t.summary = q := by
  constructor
  · intro defined
    induction defined with
    | nil => exact ⟨_, .nil, rfl⟩
    | operation first _ ih =>
      obtain ⟨o, spelled, rfl⟩ := OperationTree.operation_iff.mp first
      obtain ⟨t, behind, rfl⟩ := ih
      exact ⟨_, .operation spelled behind, rfl⟩
    | fragment first _ ih =>
      obtain ⟨s, spelled⟩ := fragment_iff.mp first
      obtain ⟨t, behind, rfl⟩ := ih
      exact ⟨_, .fragment spelled behind, rfl⟩
  · rintro ⟨t, spelled, rfl⟩
    induction spelled with
    | nil => exact .nil
    | operation first _ ih => exact .operation (OperationTree.operation_iff.mpr ⟨_, first, rfl⟩) ih
    | @fragment _ f _ _ first _ ih => exact .fragment (fragment_iff.mpr ⟨f.2, first⟩) ih

/-- The tokens of a query that is read are a document. -/
theorem document_of_read {text : String} (accepted : Query.read text = .ok q) :
    Grammar.Document text.toList (Token.ofText text.toList).1 q := by
  cases lexed : Token.ofText text.toList with
  | mk ts ending =>
    simp only [Query.read, lexed] at accepted
    cases given : Query.ofTokens text.toList ts with
    | error s => simp [given] at accepted
    | ok r =>
      rw [given] at accepted
      cases ending with
      | broken problem offset => contradiction
      | complete offset =>
        obtain rfl := Except.ok.inj accepted
        exact Query.document_of_ofTokens given

/-- Tokens have one summary. -/
theorem definitions_unique {r : Query} (one : Definitions source ts q) (other : Definitions source ts r) :
    q = r := by
  have given (q : Query) (defined : Definitions source ts q) :
      Query.definitions source (3 * ts.length) (ts.length + 1) {} ts = .ok (q, []) :=
    Query.definitions_complete defined {} (Nat.lt_succ_self _) (Nat.le_refl _)
  exact (Prod.mk.inj (Except.ok.inj ((given q one).symm.trans (given r other)))).1

/-- A query that is read has a tree. -/
theorem exists_of_read {text : String} (accepted : Query.read text = .ok q) : ∃ t : QueryTree, t.IsOf text := by
  obtain ⟨t, spelled, -⟩ := definitions_iff.mp (document_of_read accepted).1
  exact ⟨t, spelled⟩

/-- What is given for a query that is read is the summary of its tree. -/
theorem summary_of_read {text : String} {t : QueryTree} (accepted : Query.read text = .ok q)
    (tree : t.IsOf text) : t.summary = q :=
  definitions_unique (definitions_iff.mpr ⟨t, tree, rfl⟩) (document_of_read accepted).1

/-- A text that ends behind the tokens of a tree with an operation is read. -/
theorem read_of_isOf {text : String} {t : QueryTree} {offset : Nat} (tree : t.IsOf text)
    (complete : (Token.ofText text.toList).2 = .complete offset) (some : t.operations ≠ []) :
    Query.read text = .ok t.summary := by
  have lexed : Token.ofText text.toList = (_, .complete offset) := Prod.ext rfl complete
  have document : Grammar.Document text.toList (Token.ofText text.toList).1 t.summary :=
    ⟨definitions_iff.mpr ⟨t, tree, rfl⟩, by simpa [summary] using some⟩
  exact (Query.read_eq_ok_iff lexed _).mpr document

end QueryTree
end ApiAtlas.Graph
