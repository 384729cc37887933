import ApiAtlas.Graph.Catalog
import ApiAtlas.Proofs.Graph.Completeness
import ApiAtlas.Proofs.Graph.Spelling

/-! Example queries are grammatical. The literal for a type lies no deeper than its lists, so that with names
that can be read and lists that are not too deep every example can be read, and what is read is the field
with the arguments that must be given. -/
namespace ApiAtlas.Graph

open Grammar

def Token.isName (s : String) : Bool :=
  match s.toList with
  | [] => false
  | c :: cs => isNameStart c && cs.all isNameRest

/-- The number of lists around a type. -/
def TypeRef.listDepth : TypeRef → Nat
  | .base _ _ => 0
  | .wrapped kind _ t => t.listDepth + if kind = .list then 1 else 0

namespace Token

variable {rest : List Char} {d : Nat}

theorem spells_name {s : String} (name : isName s = true) (ends : Ends rest) :
    Spells s.toList rest fun ts => ∃ n : Name, ts = [n.1] ∧ n.1.text = s := by
  unfold isName at name
  cases whole : s.toList with
  | nil =>
    rw [whole] at name
    contradiction
  | cons c cs =>
    simp only [whole, Bool.and_eq_true, List.all_eq_true] at name
    have same : String.ofList (c :: cs) = s := by rw [← whole, String.ofList_toList]
    exact same ▸ .name name.1 name.2 ends

/-- A token that is a value on its own. -/
theorem spells_scalar {c : Char} {cs : List Char} {kind : TokenKind} (shallow : d ≤ Query.maxDepth)
    (solid : isIgnored c = false) (code : c ≠ '#')
    (scalar : kind ∈ [.int, .float, .string, .name])
    (scanned : scan c (cs ++ rest) = .ok (kind, cs.length + 1)) : Spells (c :: cs) rest (Value d) := by
  refine (Spells.one solid code scanned).mono ?_
  rintro _ ⟨t, rfl, -⟩
  exact .scalar shallow (by rwa [t.2])

theorem spells_word {s : String} (shallow : d ≤ Query.maxDepth) (name : isName s = true)
    (ends : Ends rest) : Spells s.toList rest (Value d) := by
  refine (spells_name name ends).mono ?_
  rintro _ ⟨n, rfl, -⟩
  exact .scalar shallow (by simp [n.2])

theorem spells_quoted {s : String} {c : Char} (cs : List Char)
    (whole : s.toList = '"' :: (c :: cs ++ ['"'])) (shallow : d ≤ Query.maxDepth)
    (plain : ((c :: cs).all fun b => b != '"' && b != '\\' && b != '\n' && b != '\r') = true) :
    Spells s.toList rest (Value d) := by
  have each : ∀ b ∈ c :: cs, b ≠ '"' ∧ b ≠ '\\' ∧ b ≠ '\n' ∧ b ≠ '\r' := fun b member => by
    simpa [and_assoc] using List.all_eq_true.mp plain b member
  exact whole ▸ spells_scalar shallow (by decide) (by decide) (by simp) (scan_quoted each rest)

theorem spells_brackets {cs : List Char} (deep : d ≤ Query.maxDepth)
    (inside : Spells cs (']' :: rest) (Value (d + 1))) : Spells ('[' :: (cs ++ [']'])) rest (Value d) := by
  have close : Spells [']'] rest _ := .punct (by decide) (.nothing (G := (· = [])) rfl)
  refine (Spells.punct (by decide) (inside.append close)).mono ?_
  rintro _ ⟨o, _, rfl, ts, _, rfl, value, c, _, rfl, rfl⟩
  simpa using @Value.list d [ts] o c deep (by simpa using value)

theorem spells_empty {opening close : Char} (first : isPunct opening = true) (last : isPunct close = true)
    {G : List Token → Prop} (form : ∀ (o : Punct opening) (c : Punct close), G [o.1, c.1]) :
    Spells [opening, close] rest G := by
  refine (Spells.punct first (.punct last (.nothing (G := (· = [])) rfl))).mono ?_
  rintro _ ⟨o, _, rfl, c, _, rfl, rfl⟩
  exact form o c

/-- The example of a type is a value that lies as deep as its lists. -/
theorem spells_exampleLiteral (t : TypeRef) (deep : d + t.listDepth ≤ Query.maxDepth) (ends : Ends rest) :
    Spells (exampleLiteral t).toList rest (Value d) := by
  have shallow : d ≤ Query.maxDepth := by omega
  -- Only the brackets of a list go deeper. What stands in them is followed by a bracket, not by `rest`.
  fun_induction exampleLiteral t generalizing d rest with
  | case1 _ t ih =>
    simp only [TypeRef.listDepth, reduceCtorEq, if_false, Nat.add_zero] at deep
    exact ih deep ends shallow
  | case2 => exact spells_word shallow (by decide) ends
  | case3 _ t ih =>
    simp only [TypeRef.listDepth, if_true] at deep
    have inside : Spells (exampleLiteral t).toList (']' :: rest) (Value (d + 1)) :=
      ih (by omega) (ends_cons (by decide)) (by omega)
    simpa using spells_brackets shallow inside
  | case4 => exact spells_empty rfl rfl fun o c => @Value.list _ [] o c shallow (by simp)
  | case5 => exact spells_empty rfl rfl fun o c => @Value.object _ [] o c shallow (by simp)
  | case6 => exact spells_empty rfl rfl fun o c => @Value.object _ [] o c shallow (by simp)
  | case7 => exact spells_quoted "xample".toList rfl shallow (by decide)
  | case8 =>
    exact spells_scalar shallow (by decide) (by decide) (by simp)
      (scan_whole (List.all_eq_true.mp (by decide)) ends)
  | case9 =>
    exact spells_scalar shallow (by decide) (by decide) (by simp)
      (scan_decimal ['2', '3'] (List.all_eq_true.mp (by decide)) (List.all_eq_true.mp (by decide)) ends)
  | case10 => exact spells_word shallow (by decide) ends
  | case11 => exact spells_quoted "d123".toList rfl shallow (by decide)
  | case12 => exact spells_word shallow (by decide) ends

/-- An argument that must be given, with an example. -/
theorem spells_argument {a : InputValue} (name : isName a.name = true)
    (deep : d + 1 + a.type.listDepth ≤ Query.maxDepth) (ends : Ends rest) :
    Spells (a.name ++ ": " ++ exampleLiteral a.type).toList rest fun ts => Grammar.Argument d ts a.name := by
  have colon : Spells (':' :: ' ' :: (exampleLiteral a.type).toList) rest _ :=
    .punct (by decide) (.blank (by decide) (spells_exampleLiteral a.type deep ends))
  have whole := (spells_name name (ends_cons (by decide))).append colon
  have chars : (a.name ++ ": " ++ exampleLiteral a.type).toList =
      a.name.toList ++ ':' :: ' ' :: (exampleLiteral a.type).toList := by simp
  rw [chars]
  refine whole.mono ?_
  rintro _ ⟨_, _, rfl, ⟨n, rfl, text⟩, o, ts, rfl, value⟩
  exact text ▸ .mk ⟨n, o, ts⟩ value

end Token

namespace Grammar

theorem until_of_forall₂ {α β : Type} {G : List Token → β → Prop} {close : Char} {name : α → β}
    {l : List α} {tss : List (List Token)} (c : Punct close)
    (each : List.Forall₂ (fun a ts => G ts (name a)) l tss) :
    Until close G (tss.flatten ++ [c.1]) (l.map name) := by
  induction each with
  | nil => exact .stop c
  | cons here _ ih =>
    rw [List.flatten_cons, List.append_assoc]
    exact .next here ih

theorem selections_of_forall₂ {α : Type} {form : α → List Token → Prop} {d : Nat} {l : List α}
    {tss : List (List Token)} (c : Punct '\x7d')
    (selected : ∀ a ts, form a ts → ∃ fields, Selection d ts fields) (each : List.Forall₂ form l tss) :
    ∃ fields, Selections d (tss.flatten ++ [c.1]) fields := by
  induction each with
  | nil => exact ⟨[], .stop c⟩
  | cons here _ ih =>
    obtain ⟨fields, here⟩ := selected _ _ here
    obtain ⟨more, behind⟩ := ih
    rw [List.flatten_cons, List.append_assoc]
    exact ⟨fields ++ more, .next here behind⟩

end Grammar

def Field.given (f : Field) : List String := (f.arguments.filter InputValue.isRequired).map InputValue.name

def Field.argumentText (f : Field) : String :=
  if f.exampleArguments.isEmpty then "" else "(" ++ ", ".intercalate f.exampleArguments ++ ")"

namespace Token

variable {rest : List Char} {f : Field} {t : FullType} {returned : Option FullType}

theorem toList_parenthesized {words : List String} (some : words ≠ []) :
    (if words.isEmpty then "" else "(" ++ ", ".intercalate words ++ ")").toList =
      '(' :: ([',', ' '].intercalate (words.map String.toList) ++ [')']) := by
  rw [if_neg (by simpa using some)]
  simp [String.toList_intercalate]

/-- The arguments of a field in an example. -/
theorem spells_arguments (names : ∀ a ∈ f.arguments, isName a.name = true)
    (deep : ∀ a ∈ f.arguments, a.type.listDepth < 60) :
    Spells f.argumentText.toList rest fun ts => Arguments 0 ts f.given := by
  rw [Field.argumentText, Field.exampleArguments, Field.given]
  generalize inside : f.arguments.filter InputValue.isRequired = required
  have known : ∀ a ∈ required, a ∈ f.arguments := by
    rw [← inside]
    exact fun a member => List.mem_of_mem_filter member
  cases required with
  | nil => exact .nothing .absent
  | cons a more =>
    have each : ∀ b ∈ a :: more, ∀ rest, Ends rest →
        Spells (b.name ++ ": " ++ exampleLiteral b.type).toList rest fun ts => Grammar.Argument 0 ts b.name := by
      intro b member rest ends
      have bound := deep b (known b member)
      have limit : Query.maxDepth = 64 := rfl
      exact spells_argument (names b (known b member)) (by omega) ends
    have close : Spells [')'] rest _ := .punct (by decide) (.nothing (G := (· = [])) rfl)
    have pieces : Spells ([',', ' '].intercalate ((a :: more).map _)) (')' :: rest) _ :=
      .joined (by simp [isIgnored]) each (ends_cons (by decide))
    rw [toList_parenthesized (by simp), List.map_map]
    refine (Spells.punct (by decide) (pieces.append close)).mono ?_
    rintro _ ⟨o, _, rfl, _, _, rfl, ⟨tss, rfl, forms⟩, c, _, rfl, rfl⟩
    exact .present ((until_of_forall₂ c forms).enclosed o (by simp))

/-- The selections of an example, in braces. -/
theorem spells_exampleSelection (names : ∀ g ∈ t.allFields, isName g.name = true) :
    Spells (" \x7b " ++ exampleSelection t ++ " \x7d").toList rest fun ts =>
      ∃ fields, SelectionSet 1 ts fields := by
  obtain ⟨word, words, same, each⟩ : ∃ word words, exampleSelection t = " ".intercalate (word :: words) ∧
      ∀ w ∈ word :: words, isName w = true := by
    unfold exampleSelection
    generalize inside : ((t.allFields.filter Field.isSimple).map Field.name).take exampleFields = leaves
    cases leaves with
    | nil => exact ⟨"__typename", [], by simp, by decide⟩
    | cons word words =>
      refine ⟨word, words, by simp, fun w member => ?_⟩
      rw [← inside] at member
      obtain ⟨g, listed, rfl⟩ := List.mem_map.mp (List.mem_of_mem_take member)
      exact names g (List.mem_of_mem_filter listed)
  have close : Spells [' ', '\x7d'] rest _ :=
    .blank (by decide) (.punct (by decide) (.nothing (G := (· = [])) rfl))
  have pieces : Spells ([' '].intercalate ((word :: words).map String.toList)) ([' ', '\x7d'] ++ rest) _ :=
    .joined (by simp [isIgnored]) (fun w member rest ends => spells_name (each w member) ends)
      (ends_of_blank (by decide))
  have chars : (" \x7b " ++ exampleSelection t ++ " \x7d").toList =
      ' ' :: '\x7b' :: ' ' :: ([' '].intercalate ((word :: words).map String.toList) ++ [' ', '\x7d']) := by
    rw [same]
    simp [String.toList_intercalate]
  rw [chars]
  refine (Spells.blank (by decide) (.punct (by decide) (.blank (by decide) (pieces.append close)))).mono ?_
  rintro _ ⟨o, _, rfl, _, _, rfl, ⟨tss, rfl, forms⟩, c, _, rfl, rfl⟩
  cases forms with
  | cons first others =>
    have leaf (w : String) (ts : List Token) (named : ∃ n : Name, ts = [n.1] ∧ n.1.text = w) :
        ∃ fields, Selection 1 ts fields := by
      obtain ⟨n, rfl, -⟩ := named
      exact ⟨_, .leaf (.plain n .absent .nil)⟩
    obtain ⟨_, here⟩ := leaf _ _ first
    obtain ⟨_, behind⟩ := selections_of_forall₂ c leaf others
    rw [List.flatten_cons, List.append_assoc]
    exact ⟨_, .mk o (by decide) here behind⟩

theorem ends_arguments (f : Field) : Ends f.argumentText.toList := by
  unfold Field.argumentText
  split
  · rintro _ ⟨⟩
  · simp only [String.toList_append]
    rintro _ ⟨⟩
    decide

/-- An example consists of its keyword, the field with its arguments and perhaps selections. -/
theorem exampleQuery_eq (kind : OperationKind) (f : Field) (returned : Option FullType) :
    ∃ s, exampleQuery kind f returned =
        kind.text ++ " \x7b " ++ f.name ++ f.argumentText ++ s ++ " \x7d" ∧
      (s = "" ∨ ∃ t, returned = some t ∧ s = " \x7b " ++ exampleSelection t ++ " \x7d") := by
  refine ⟨_, rfl, ?_⟩
  cases returned with
  | none => exact .inl rfl
  | some t =>
    by_cases leaf : t.kind.isLeaf = true
    · exact .inl (by simp only [leaf, if_true])
    · exact .inr ⟨t, rfl, by simp only [leaf, Bool.false_eq_true, if_false]⟩

/-- What follows a field in an example: its selections, or nothing. -/
theorem spells_returned (fields : ∀ t ∈ returned, ∀ g ∈ t.allFields, isName g.name = true) {s : String}
    (text : s = "" ∨ ∃ t, returned = some t ∧ s = " \x7b " ++ exampleSelection t ++ " \x7d") :
    Ends s.toList ∧ Spells s.toList rest fun ts => ts = [] ∨ ∃ fields, SelectionSet 1 ts fields := by
  rcases text with rfl | ⟨t, given, rfl⟩
  · exact ⟨by rintro _ ⟨⟩, .nothing (.inl rfl)⟩
  · refine ⟨?_, (spells_exampleSelection (fields t given)).mono fun _ => .inr⟩
    simp only [String.toList_append]
    rintro _ ⟨⟩
    decide

/-- A field as the only selection of an operation without variables. -/
theorem document_of_field {kind : OperationKind} {source : List Char} {as ss : List Token}
    {arguments : List String} (w n : Name) (o : Punct '\x7b') (c : Punct '\x7d') (word : w.1.text = kind.text)
    (given : Arguments 0 as arguments) (inner : ss = [] ∨ ∃ fields, SelectionSet 1 ss fields) :
    Grammar.Document source (w.1 :: o.1 :: n.1 :: (as ++ (ss ++ [c.1])))
      ⟨[⟨kind, none, [], [⟨n.1.text, none, arguments⟩]⟩], []⟩ := by
  have head : FieldHead 0 (n.1 :: (as ++ [])) ⟨n.1.text, none, arguments⟩ := .plain n given .nil
  have selection : Selection 0 (n.1 :: (as ++ []) ++ ss) [⟨n.1.text, none, arguments⟩] := by
    rcases inner with rfl | ⟨fields, set⟩
    · simpa using Selection.leaf head
    · exact .nested head set
  have set := SelectionSet.mk o (by decide) selection (.stop c)
  have operation : Grammar.Operation source _ _ := .keyword ⟨w.1, w.2, word⟩ .absent .absent .nil set
  have definitions := Definitions.operation operation .nil
  refine ⟨?_, List.cons_ne_nil _ _⟩
  simpa using definitions

/-- An example is read as an operation on the one field. -/
theorem spells_exampleQuery (kind : OperationKind) (name : isName f.name = true)
    (arguments : ∀ a ∈ f.arguments, isName a.name = true ∧ a.type.listDepth < 60)
    (fields : ∀ t ∈ returned, ∀ g ∈ t.allFields, isName g.name = true) (source : List Char) :
    Spells (exampleQuery kind f returned).toList [] fun ts =>
      Grammar.Document source ts ⟨[⟨kind, none, [], [⟨f.name, none, f.given⟩]⟩], []⟩ := by
  have keyword : isName kind.text = true := by cases kind <;> decide
  obtain ⟨s, text, returns⟩ := exampleQuery_eq kind f returned
  have chars : (exampleQuery kind f returned).toList = kind.text.toList ++ ' ' :: '\x7b' :: ' ' ::
      (f.name.toList ++ (f.argumentText.toList ++ (s.toList ++ [' ', '\x7d']))) := by
    rw [text]
    simp only [String.toList_append, List.append_assoc]
    rfl
  have close : Spells [' ', '\x7d'] [] _ :=
    .blank (by decide) (.punct (by decide) (.nothing (G := (· = [])) rfl))
  obtain ⟨endsInner, inner⟩ : Ends s.toList ∧ Spells s.toList ([' ', '\x7d'] ++ []) _ :=
    spells_returned fields returns
  have given : Spells f.argumentText.toList (s.toList ++ [' ', '\x7d'] ++ []) _ :=
    spells_arguments (fun a member => (arguments a member).1) fun a member => (arguments a member).2
  have endsName : Ends (f.argumentText.toList ++ (s.toList ++ [' ', '\x7d']) ++ []) := by
    rw [List.append_nil]
    exact (ends_arguments f).append (endsInner.append (ends_of_blank (by decide)))
  have field := (spells_name name endsName).append (given.append (inner.append close))
  have braces : Spells (' ' :: '\x7b' :: ' ' :: _) [] _ :=
    .blank (by decide) (.punct (by decide) (.blank (by decide) field))
  rw [chars]
  refine ((spells_name keyword (ends_of_blank (by decide))).append braces).mono ?_
  rintro _ ⟨_, _, rfl, ⟨w, rfl, word⟩, o, _, rfl, _, _, rfl, ⟨n, rfl, named⟩, as, _, rfl, given, ss, _, rfl,
    inner, c, _, rfl, rfl⟩
  exact named ▸ document_of_field w n o c word given inner

end Token
end ApiAtlas.Graph
