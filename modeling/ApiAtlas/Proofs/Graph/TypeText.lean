import ApiAtlas.Proofs.Graph.Preflight

/-! Types as the schema language writes them, read again as the types of variables. Brackets and marks tell the
wrappers apart, so that a text stands for one type, and a reader of queries gives back the text whatever stands
between its tokens. -/
namespace ApiAtlas.Graph

open Grammar (Punct Name Mark Word)

namespace TypeRef

/-- A name with lists and marks around it, and no mark on a mark. -/
inductive WellFormed : TypeRef → Prop
  | base {kind name} : kind ≠ .list → kind ≠ .nonNull → Token.isName name = true →
    WellFormed (.base kind (some name))
  | list {name t} : WellFormed t → WellFormed (.wrapped .list name t)
  | nonNull {name t} : t.kind ≠ .nonNull → WellFormed t → WellFormed (.wrapped .nonNull name t)

/-- The kinds of the references around the innermost one, from the outside. -/
def wrappers : TypeRef → List TypeKind
  | .base _ _ => []
  | .wrapped kind _ t => kind :: t.wrappers

inductive Laid : TypeRef → List Char → Prop
  | base {kind name} : Laid (.base kind (some name)) name.toList
  | list {name t before cs behind} : Token.Gap before → Laid t cs → Token.Gap behind →
    Laid (.wrapped .list name t) ('[' :: (before ++ (cs ++ (behind ++ [']']))))
  | nonNull {name t cs gap} : Laid t cs → Token.Gap gap →
    Laid (.wrapped .nonNull name t) (cs ++ (gap ++ ['!']))

variable {t u : TypeRef} {d : Nat} {cs rest : List Char}

/-- Without gaps there is the text alone. -/
theorem laid_text (wellFormed : t.WellFormed) : t.Laid t.text.toList := by
  induction wellFormed with
  | base => exact .base
  | list _ ih => simpa [text] using Laid.list .nil ih .nil
  | nonNull _ _ ih => simpa [text] using Laid.nonNull ih .nil

/-! What a text stands for. -/

/-- The last character of a text, if the outermost wrapper decides it: a mark or a bracket. -/
def closing? : TypeRef → Option Char
  | .base _ _ => none
  | .wrapped kind _ _ => if kind = .nonNull then some '!' else some ']'

theorem isNameRest_of_mem {name : String} (named : Token.isName name = true) :
    name.toList ≠ [] ∧ ∀ c ∈ name.toList, Token.isNameRest c = true := by
  unfold Token.isName at named
  cases whole : name.toList with
  | nil =>
    rw [whole] at named
    contradiction
  | cons first others =>
    simp only [whole, Bool.and_eq_true, List.all_eq_true, Token.isNameStart, Bool.or_eq_true] at named
    obtain ⟨start, rest⟩ := named
    refine ⟨List.cons_ne_nil _ _, List.forall_mem_cons.mpr ⟨?_, rest⟩⟩
    simp only [Token.isNameRest, Char.isAlphanum, Bool.or_eq_true]
    tauto

theorem getLast?_text (wellFormed : t.WellFormed) : ∃ c, t.text.toList.getLast? = some c ∧
    (t.closing? = some c ∨ t.closing? = none ∧ Token.isNameRest c = true) := by
  cases wellFormed with
  | @base _ name _ _ named =>
    obtain ⟨some, each⟩ := isNameRest_of_mem named
    exact ⟨_, List.getLast?_eq_some_getLast some, .inr ⟨rfl, each _ (List.getLast_mem some)⟩⟩
  | list => exact ⟨']', by simp only [text, String.toList_append]; exact List.getLast?_concat, .inl rfl⟩
  | nonNull => exact ⟨'!', by simp only [text, String.toList_append]; exact List.getLast?_concat, .inl rfl⟩

/-- Neither a mark nor a bracket belongs to a name, so that the last character tells the outermost wrapper. -/
theorem closing?_eq_of_text (left : t.WellFormed) (right : u.WellFormed) (same : t.text = u.text) :
    t.closing? = u.closing? := by
  have solid {v : TypeRef} {c : Char} (closed : v.closing? = some c) : Token.isNameRest c = false := by
    cases v with
    | base => contradiction
    | wrapped kind =>
      simp only [closing?] at closed
      split at closed <;> cases closed <;> decide
  obtain ⟨c, last, here⟩ := getLast?_text left
  obtain ⟨c', last', there⟩ := getLast?_text right
  obtain rfl : c = c' := Option.some.inj (last.symm.trans (same ▸ last'))
  rcases here with here | ⟨here, named⟩
  · rcases there with there | ⟨-, named⟩
    · exact here.trans there.symm
    · simp [solid here] at named
  · rcases there with there | ⟨there, -⟩
    · simp [solid there] at named
    · exact here.trans there.symm

theorem iff_of_closing? (left : t.WellFormed) (right : u.WellFormed) (apart : t.closing? ≠ u.closing?) :
    t.text = u.text ↔ t.wrappers = u.wrappers ∧ t.baseName = u.baseName := by
  refine iff_of_false (fun same => apart (closing?_eq_of_text left right same)) fun ⟨same, _⟩ => apart ?_
  cases t <;> cases u <;> simp_all [closing?, wrappers]

/-- A text stands for one type, as far as it tells: its wrappers and its name. -/
theorem text_eq_iff (left : t.WellFormed) (right : u.WellFormed) :
    t.text = u.text ↔ t.wrappers = u.wrappers ∧ t.baseName = u.baseName := by
  induction left generalizing u with
  | base plain strict named =>
    cases right with
    | base => simp [text, wrappers, baseName]
    | list right => exact iff_of_closing? (.base plain strict named) (.list right) (by simp [closing?])
    | nonNull single right =>
      exact iff_of_closing? (.base plain strict named) (.nonNull single right) (by simp [closing?])
  | list left ih =>
    cases right with
    | base plain strict named =>
      exact iff_of_closing? (.list left) (.base plain strict named) (by simp [closing?])
    | list right => simpa [text, wrappers, baseName] using ih right
    | nonNull single right =>
      exact iff_of_closing? (.list left) (.nonNull single right) (by simp [closing?])
  | nonNull single left ih =>
    cases right with
    | base plain strict named =>
      exact iff_of_closing? (.nonNull single left) (.base plain strict named) (by simp [closing?])
    | list right => exact iff_of_closing? (.nonNull single left) (.list right) (by simp [closing?])
    | nonNull _ right => simpa [text, wrappers, baseName] using ih right

end TypeRef

namespace Token

variable {t : TypeRef} {d : Nat} {cs rest : List Char}

def Markable (d : Nat) (t : TypeRef) (ts : List Token) : Prop :=
  ∀ ms mark, Mark ms mark → Grammar.TypeRef d (ts ++ ms) (t.text ++ mark)

/-- A type spells its text, and a mark can follow unless there is one. -/
theorem spells_type (wellFormed : t.WellFormed) (laid : t.Laid cs) (deep : d + t.listDepth ≤ Query.maxDepth)
    (ends : Ends rest) : Spells cs rest fun ts =>
      Grammar.TypeRef d ts t.text ∧ (t.kind ≠ .nonNull → Markable d t ts) := by
  induction laid generalizing d rest with
  | @base kind name =>
    cases wellFormed with
    | base _ _ named =>
      refine (spells_name named ends).mono ?_
      rintro _ ⟨n, rfl, same⟩
      have markable : Markable d (.base kind (some name)) [n.1] := by
        intro ms mark marked
        have whole := Grammar.TypeRef.name n (d := d) (by simpa [TypeRef.listDepth] using deep) marked
        rwa [same] at whole
      exact ⟨by simpa using markable [] "" .absent, fun _ => markable⟩
  | @list name t before cs behind gap laid gap' ih =>
    cases wellFormed with
    | list wellFormed =>
      simp only [TypeRef.listDepth, if_true] at deep
      have close : Spells (behind ++ [']']) rest _ :=
        .behind gap' (.punct (by decide) (.nothing (G := (· = [])) rfl))
      have ended : Ends (behind ++ [']'] ++ rest) := by
        rw [List.append_assoc]
        exact gap'.ends (ends_cons (by decide))
      have inside := ih wellFormed (by omega : d + 1 + t.listDepth ≤ _) ended
      refine (Spells.punct (by decide) (.behind gap (inside.append close))).mono ?_
      rintro _ ⟨o, _, rfl, ts, _, rfl, ⟨typed, -⟩, c, _, rfl, rfl⟩
      have markable : Markable d (.wrapped .list name t) (o.1 :: (ts ++ [c.1])) := by
        intro ms mark marked
        have whole := Grammar.TypeRef.list o c (by omega) typed marked
        simpa [TypeRef.text] using whole
      exact ⟨by simpa using markable [] "" .absent, fun _ => markable⟩
  | @nonNull name t cs gap laid free ih =>
    cases wellFormed with
    | nonNull single wellFormed =>
      have close : Spells (gap ++ ['!']) rest _ :=
        .behind free (.punct (by decide) (.nothing (G := (· = [])) rfl))
      have ended : Ends (gap ++ ['!'] ++ rest) := by
        rw [List.append_assoc]
        exact free.ends (ends_cons (by decide))
      simp only [TypeRef.listDepth, reduceCtorEq, if_false, Nat.add_zero] at deep
      have inside := ih wellFormed deep ended
      refine (inside.append close).mono ?_
      rintro _ ⟨ts, _, rfl, ⟨-, markable⟩, b, _, rfl, rfl⟩
      exact ⟨markable single [b.1] "!" (.present b), fun marked => absurd rfl marked⟩

/-- A query with one variable and one field. -/
theorem document_of_variable {source : List Char} {ts : List Token} {text : String}
    (word : Word (OperationKind.text .query)) (opening : Punct '(') (dollar : Punct '$') (name : Name)
    (colon : Punct ':') (typed : Grammar.TypeRef 0 ts text) (closing : Punct ')') (o : Punct '\x7b')
    (f : Name) (c : Punct '\x7d') :
    Grammar.Document source
      (word.1 :: opening.1 :: dollar.1 :: name.1 :: colon.1 :: (ts ++ [closing.1, o.1, f.1, c.1]))
      ⟨[⟨.query, none, [⟨name.1.text, text, none⟩], [⟨f.1.text, none, []⟩]⟩], []⟩ := by
  have defined : Grammar.VariableDefinition source (dollar.1 :: name.1 :: colon.1 :: (ts ++ ([] ++ [])))
      ⟨name.1.text, text, none⟩ := .mk dollar name colon typed .absent .nil
  have declared : Grammar.Variables source _ _ := .present (.mk opening defined (.stop closing))
  have selected : Grammar.Selection 0 _ _ := .leaf (.plain f .absent .nil)
  have operation : Grammar.Operation source _ ⟨.query, none, _, _⟩ :=
    .keyword word .absent declared .nil (.mk o (by decide) selected (.stop c))
  refine ⟨?_, List.cons_ne_nil _ _⟩
  simpa using Grammar.Definitions.operation operation .nil

theorem spells_variable {v text : String} {source : List Char} (name : isName v = true)
    (typed : ∀ rest, Ends rest → Spells cs rest fun ts => Grammar.TypeRef 0 ts text) :
    Spells ("query($" ++ v ++ ": " ++ String.ofList cs ++ ") \x7b f \x7d").toList [] fun ts =>
      Grammar.Document source ts ⟨[⟨.query, none, [⟨v, text, none⟩], [⟨"f", none, []⟩]⟩], []⟩ := by
  have braces : Spells [')', ' ', '\x7b', ' ', 'f', ' ', '\x7d'] [] _ :=
    .punct (by decide) (.blank (by decide) (.punct (by decide) (.blank (by decide)
      ((spells_name (s := "f") (by decide) (ends_of_blank (by decide))).append
        (.blank (by decide) (.punct (by decide) (.nothing (G := (· = [])) rfl)))))))
  have parameter := (typed _ (ends_cons (by decide))).append braces
  have named := (spells_name name (ends_cons (by decide))).append
    (.punct (c := ':') (by decide) (.blank (c := ' ') (by decide) parameter))
  have whole := (spells_name (s := "query") (by decide) (ends_cons (by decide))).append
    (.punct (c := '(') (by decide) (.punct (c := '$') (by decide) named))
  have chars : ("query($" ++ v ++ ": " ++ String.ofList cs ++ ") \x7b f \x7d").toList =
      "query".toList ++ '(' :: '$' :: (v.toList ++ ':' :: ' ' ::
        (cs ++ [')', ' ', '\x7b', ' ', 'f', ' ', '\x7d'])) := by
    simp
  rw [chars]
  refine whole.mono ?_
  rintro _ ⟨_, _, rfl, ⟨w, rfl, word⟩, opening, _, rfl, dollar, _, rfl, _, _, rfl, ⟨n, rfl, rfl⟩, colon, _, rfl,
    ts, _, rfl, typed, closing, _, rfl, o, _, rfl, _, _, rfl, ⟨f, rfl, field⟩, c, _, rfl, rfl⟩
  have document : Grammar.Document source _ _ :=
    document_of_variable ⟨w.1, w.2, word⟩ opening dollar n colon typed closing o f c
  rwa [field] at document

end Token

/-- A type of a variable is read as it is written, whatever stands between its tokens, and no other type is
written so. -/
theorem TypeRef.text_read_back {t : TypeRef} {v : String} {cs : List Char} (wellFormed : t.WellFormed)
    (shallow : t.listDepth ≤ Query.maxDepth) (name : Token.isName v = true) (laid : t.Laid cs) :
    Query.read ("query($" ++ v ++ ": " ++ String.ofList cs ++ ") \x7b f \x7d") =
      .ok ⟨[⟨.query, none, [⟨v, t.text, none⟩], [⟨"f", none, []⟩]⟩], []⟩ ∧
    ∀ u : TypeRef, u.WellFormed →
      (t.text = u.text ↔ t.wrappers = u.wrappers ∧ t.baseName = u.baseName) := by
  refine ⟨?_, fun u other => text_eq_iff wellFormed other⟩
  have typed (rest : List Char) (ends : Token.Ends rest) :
      Token.Spells cs rest fun ts => Grammar.TypeRef 0 ts t.text :=
    (Token.spells_type wellFormed laid (by omega) ends).mono fun _ both => both.1
  obtain ⟨ts, offset, lexed, document⟩ := (Token.spells_variable name typed).ofText
  exact Query.read_of_document lexed document

namespace TypeRef

def grid : TypeRef :=
  .wrapped .nonNull none (.wrapped .list none (.wrapped .list none (.wrapped .nonNull none
    (.base .scalar (some "ID")))))

theorem wellFormed_grid : grid.WellFormed :=
  .nonNull (by decide) (.list (.list (.nonNull (by decide) (.base (by decide) (by decide) (by decide)))))

theorem laid_grid : grid.Laid "[ [ID\n!],# rows\n]\t!".toList := by
  have name : Laid (.wrapped .nonNull none (.base .scalar (some "ID"))) "ID\n!".toList :=
    .nonNull .base (.blank (by decide) .nil)
  have row : Laid (.wrapped .list none _) "[ID\n!]".toList := .list .nil name .nil
  have note : Token.Gap ('#' :: (" rows".toList ++ ['\n'])) := .comment (by decide) .nil
  have rows : Laid (.wrapped .list none _) "[ [ID\n!],# rows\n]".toList :=
    .list (.blank (by decide) .nil) row (.blank (by decide) note)
  exact .nonNull rows (.blank (by decide) .nil)

theorem grid_read_back :
    Query.read "query($rows: [ [ID\n!],# rows\n]\t!) \x7b f \x7d" =
      .ok ⟨[⟨.query, none, [⟨"rows", "[[ID!]]!", none⟩], [⟨"f", none, []⟩]⟩], []⟩ ∧
    ∀ u : TypeRef, u.WellFormed → (grid.text = u.text ↔ grid.wrappers = u.wrappers ∧ "ID" = u.baseName) := by
  have whole := text_read_back (v := "rows") wellFormed_grid (by decide) (by decide) laid_grid
  have text : "query($" ++ "rows" ++ ": " ++ String.ofList "[ [ID\n!],# rows\n]\t!".toList ++ ") \x7b f \x7d" =
      "query($rows: [ [ID\n!],# rows\n]\t!) \x7b f \x7d" := by
    rw [String.ofList_toList]
    decide
  rw [text] at whole
  exact whole

end TypeRef
end ApiAtlas.Graph
