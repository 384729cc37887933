import ApiAtlas.Graph.Query.Parser

/-! The grammar of graph queries. Each relation holds between the tokens of a part of a query and what
the summary of the query says about it. Types, values and selections carry the depth at which they lie:
it grows in brackets, in braces of values and in the selections of a field, and never exceeds `maxDepth`;
fragments in place lie as deep as what is around them. -/
namespace ApiAtlas.Graph.Grammar

open Query (maxDepth slice)

abbrev TokenOf (kind : TokenKind) := { t : Token // t.kind = kind }

abbrev Punct (c : Char) := TokenOf (.punct c)

abbrev Name := TokenOf .name

abbrev Word (word : String) := { t : Token // t.kind = .name ∧ t.text = word }

variable {α : Type}

/-- A part, or no tokens and the summary of nothing. -/
inductive Optional (G : List Token → α → Prop) (nothing : α) : List Token → α → Prop
  | absent : Optional G nothing [] nothing
  | present {ts a} : G ts a → Optional G nothing ts a

inductive Until (close : Char) (G : List Token → α → Prop) : List Token → List α → Prop
  | stop (c : Punct close) : Until close G [c.1] []
  | next {ts a us as} : G ts a → Until close G us as → Until close G (ts ++ us) (a :: as)

inductive Enclosed (opening close : Char) (G : List Token → α → Prop) : List Token → List α → Prop
  | mk {ts a us as} (o : Punct opening) : G ts a → Until close G us as →
    Enclosed opening close G (o.1 :: (ts ++ us)) (a :: as)

theorem Until.enclosed {opening close : Char} {G : List Token → α → Prop} {ts : List Token} {as : List α}
    (o : Punct opening) (inside : Until close G ts as) (some : as ≠ []) :
    Enclosed opening close G (o.1 :: ts) as := by
  cases inside with
  | stop => contradiction
  | next first others => exact .mk o first others

inductive Mark : List Token → String → Prop
  | absent : Mark [] ""
  | present (t : Punct '!') : Mark [t.1] "!"

inductive TypeRef : Nat → List Token → String → Prop
  | name {d ms mark} (t : Name) : d ≤ maxDepth → Mark ms mark → TypeRef d (t.1 :: ms) (t.1.text ++ mark)
  | list {d ts text ms mark} (o : Punct '[') (c : Punct ']') : d ≤ maxDepth → TypeRef (d + 1) ts text →
    Mark ms mark → TypeRef d (o.1 :: (ts ++ c.1 :: ms)) ("[" ++ text ++ "]" ++ mark)

structure Entry where
  name : Name
  colon : Punct ':'
  value : List Token

def Entry.tokens (e : Entry) : List Token := e.name.1 :: e.colon.1 :: e.value

inductive Value : Nat → List Token → Prop
  | reference {d} (dollar : Punct '$') (name : Name) : d ≤ maxDepth → Value d [dollar.1, name.1]
  | scalar {d t} : d ≤ maxDepth → t.kind ∈ [.int, .float, .string, .name] → Value d [t]
  | list {d} {items : List (List Token)} (o : Punct '[') (c : Punct ']') : d ≤ maxDepth →
    (∀ ts ∈ items, Value (d + 1) ts) → Value d (o.1 :: (items.flatten ++ [c.1]))
  | object {d} {members : List Entry} (o : Punct '\x7b') (c : Punct '\x7d') : d ≤ maxDepth →
    (∀ e ∈ members, Value (d + 1) e.value) → Value d (o.1 :: (members.flatMap Entry.tokens ++ [c.1]))

inductive Argument (d : Nat) : List Token → String → Prop
  | mk (e : Entry) : Value (d + 1) e.value → Argument d e.tokens e.name.1.text

abbrev Arguments (d : Nat) : List Token → List String → Prop :=
  Optional (Enclosed '(' ')' (Argument d)) []

inductive Directives (d : Nat) : List Token → Prop
  | nil : Directives d []
  | cons {as names ts} (sign : Punct '@') (name : Name) : Arguments d as names → Directives d ts →
    Directives d (sign.1 :: name.1 :: (as ++ ts))

inductive FieldHead (d : Nat) : List Token → RootField → Prop
  | plain {as arguments ds} (name : Name) : Arguments d as arguments → Directives d ds →
    FieldHead d (name.1 :: (as ++ ds)) ⟨name.1.text, none, arguments⟩
  | called {as arguments ds} (called : Name) (colon : Punct ':') (name : Name) :
    Arguments d as arguments → Directives d ds →
    FieldHead d (called.1 :: colon.1 :: name.1 :: (as ++ ds)) ⟨name.1.text, some called.1.text, arguments⟩

inductive TypeCondition : List Token → Prop
  | absent : TypeCondition []
  | on (word : Word "on") (type : Name) : TypeCondition [word.1, type.1]

mutual
/-- Selections in braces, one at least. The summary has those on the root type only. -/
inductive SelectionSet : Nat → List Token → List RootField → Prop
  | mk {d ts fields us others} (o : Punct '\x7b') : d ≤ maxDepth → Selection d ts fields →
    Selections d us others →
    SelectionSet d (o.1 :: (ts ++ us)) (if d = 0 then fields ++ others else [])
inductive Selections : Nat → List Token → List RootField → Prop
  | stop {d} (c : Punct '\x7d') : Selections d [c.1] []
  | next {d ts fields us others} : Selection d ts fields → Selections d us others →
    Selections d (ts ++ us) (fields ++ others)
inductive Selection : Nat → List Token → List RootField → Prop
  | leaf {d ts f} : FieldHead d ts f → Selection d ts [f]
  | nested {d ts f us inner} : FieldHead d ts f → SelectionSet (d + 1) us inner → Selection d (ts ++ us) [f]
  | spread {d ds} (dots : TokenOf .spread) (name : Name) : name.1.text ≠ "on" → Directives d ds →
    Selection d (dots.1 :: name.1 :: ds) []
  | inline {d cs ds ts fields} (dots : TokenOf .spread) : TypeCondition cs → Directives d ds →
    SelectionSet d ts fields → Selection d (dots.1 :: (cs ++ (ds ++ ts))) fields
end

def sourceText (source : List Char) (ts : List Token) : String :=
  slice source ((ts.head?.map Token.start).getD 0) ((ts.getLast?.map Token.stop).getD 0)

inductive DefaultValue (source : List Char) : List Token → Option String → Prop
  | mk {ts} (equals : Punct '=') : Value 0 ts →
    DefaultValue source (equals.1 :: ts) (some (sourceText source ts))

inductive VariableDefinition (source : List Char) : List Token → Variable → Prop
  | mk {ts type vs default ds} (dollar : Punct '$') (name : Name) (colon : Punct ':') : TypeRef 0 ts type →
    Optional (DefaultValue source) none vs default → Directives 0 ds →
    VariableDefinition source (dollar.1 :: name.1 :: colon.1 :: (ts ++ (vs ++ ds))) ⟨name.1.text, type, default⟩

abbrev Variables (source : List Char) : List Token → List Variable → Prop :=
  Optional (Enclosed '(' ')' (VariableDefinition source)) []

inductive OperationName : List Token → Option String → Prop
  | absent : OperationName [] none
  | present (name : Name) : OperationName [name.1] (some name.1.text)

inductive Operation (source : List Char) : List Token → OperationDefinition → Prop
  | bare {ts fields} : SelectionSet 0 ts fields → Operation source ts { kind := .query, fields }
  | keyword {kind ns called vs vars ds ts fields} (word : Word (OperationKind.text kind)) :
    OperationName ns called → Variables source vs vars → Directives 0 ds → SelectionSet 0 ts fields →
    Operation source (word.1 :: (ns ++ (vs ++ (ds ++ ts)))) ⟨kind, called, vars, fields⟩

inductive Fragment : List Token → String → Prop
  | mk {ds ts fields} (word : Word "fragment") (name : Name) (on : Word "on") (type : Name) :
    name.1.text ≠ "on" → Directives 0 ds → SelectionSet 1 ts fields →
    Fragment (word.1 :: name.1 :: on.1 :: type.1 :: (ds ++ ts)) name.1.text

inductive Definitions (source : List Char) : List Token → Query → Prop
  | nil : Definitions source [] {}
  | operation {ts o us q} : Operation source ts o → Definitions source us q →
    Definitions source (ts ++ us) { q with operations := o :: q.operations }
  | fragment {ts name us q} : Fragment ts name → Definitions source us q →
    Definitions source (ts ++ us) { q with fragments := name :: q.fragments }

/-- The tokens of a query over a source text, with its summary: one operation at least. -/
def Document (source : List Char) (ts : List Token) (q : Query) : Prop :=
  Definitions source ts q ∧ q.operations ≠ []

end ApiAtlas.Graph.Grammar
