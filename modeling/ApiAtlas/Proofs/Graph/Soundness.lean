import ApiAtlas.Proofs.Graph.Grammar

/-! What the readers of a query take is grammatical. `Reads` says that whatever a reader gives, it took
tokens from the front that the grammar has for it; its rules follow the ways in which readers are made of
others, so that every reader is read once through. Recursive readers go by induction on the fuel. -/
namespace ApiAtlas.Graph.Query

open Grammar

/-- What a reader gives at some tokens, it gives for tokens in front that are related to it. -/
def Reads {α : Type} (ts : List Token) (x : Except Stop (α × List Token))
    (G : List Token → α → Prop) : Prop :=
  ∀ a rest, x = .ok (a, rest) → ∃ used, ts = used ++ rest ∧ G used a

namespace Reads

variable {α β : Type} {ts : List Token} {x : Except Stop (α × List Token)}
  {G : List Token → α → Prop} {H : List Token → β → Prop}

theorem pure {a : α} (nothing : G [] a) : Reads ts (.ok (a, ts)) G := by
  rintro _ _ ⟨⟩
  exact ⟨[], rfl, nothing⟩

theorem error {s : Stop} : Reads ts (.error s) G := nofun

theorem bind {f : α × List Token → Except Stop (β × List Token)} (first : Reads ts x G)
    (next : ∀ used a rest, G used a → Reads rest (f (a, rest)) fun us b => H (used ++ us) b) :
    Reads ts (x >>= f) H := by
  intro b rest given
  cases taken : x with
  | error s => rw [taken] at given; contradiction
  | ok p =>
    rw [taken] at given
    obtain ⟨used, rfl, good⟩ := first p.1 p.2 taken
    obtain ⟨us, behind, more⟩ := next used p.1 p.2 good b rest given
    exact ⟨used ++ us, by rw [List.append_assoc, ← behind], more⟩

/-- What is read is a prefix of what is there. -/
theorem impFront {G' : List Token → α → Prop} (first : Reads ts x G)
    (weaker : ∀ us a, us <+: ts → G us a → G' us a) : Reads ts x G' := by
  intro a rest given
  obtain ⟨used, whole, good⟩ := first a rest given
  exact ⟨used, whole, weaker used a ⟨rest, whole.symm⟩ good⟩

theorem imp {G' : List Token → α → Prop} (first : Reads ts x G) (weaker : ∀ us a, G us a → G' us a) :
    Reads ts x G' :=
  first.impFront fun us a _ => weaker us a

theorem cons {t : Token} (next : Reads ts x fun us a => G (t :: us) a) : Reads (t :: ts) x G := by
  intro a rest given
  obtain ⟨used, whole, good⟩ := next a rest given
  exact ⟨t :: used, congrArg (t :: ·) whole, good⟩

/-- Over a token that was looked at. -/
theorem skip {kind : TokenKind} (here : isAt kind ts = true)
    (next : ∀ t : TokenOf kind, ts = t.1 :: ts.drop 1 → Reads (ts.drop 1) x fun us a => G (t.1 :: us) a) :
    Reads ts x G := by
  intro a rest given
  cases ts with
  | nil => contradiction
  | cons t us =>
    obtain ⟨used, whole, good⟩ := next ⟨t, by simpa [isAt] using here⟩ rfl a rest given
    exact ⟨t :: used, congrArg (t :: ·) whole, good⟩

theorem skipWord {word : String} (here : atWord word ts = true)
    (next : ∀ t : Word word, Reads (ts.drop 1) x fun us a => G (t.1 :: us) a) : Reads ts x G := by
  intro a rest given
  cases ts with
  | nil => contradiction
  | cons t us =>
    obtain ⟨used, whole, good⟩ := next ⟨t, by simpa [atWord] using here⟩ a rest given
    exact ⟨t :: used, congrArg (t :: ·) whole, good⟩

end Reads

variable {ts : List Token}

theorem punct_reads (c : Char) (ts : List Token) :
    Reads ts (punct c ts) fun us t => us = [t] ∧ t.kind = .punct c := by
  unfold punct expected
  split
  · split
    · rintro _ _ ⟨⟩
      exact ⟨[_], rfl, rfl, ‹_›⟩
    · exact .error
  · exact .error

theorem name_reads (ts : List Token) : Reads ts (name ts) fun us t => us = [t] ∧ t.kind = .name := by
  unfold name expected
  split
  · split
    · rintro _ _ ⟨⟩
      exact ⟨[_], rfl, rfl, ‹_›⟩
    · exact .error
  · exact .error

/-- A mark behind a type, if there is one, is added to its text. -/
theorem mark_reads (text : String) (ts : List Token) :
    Reads ts (if isAt (.punct '!') ts then .ok (text ++ "!", ts.drop 1) else .ok (text, ts))
      fun us marked => ∃ mark, Mark us mark ∧ marked = text ++ mark := by
  split
  case isTrue here => exact .skip here fun t _ => .pure ⟨"!", .present t, rfl⟩
  case isFalse => exact .pure ⟨"", .absent, String.append_empty.symm⟩

theorem type_reads (fuel d : Nat) (ts : List Token) : Reads ts (type fuel d ts) (Grammar.TypeRef d) := by
  induction fuel generalizing d ts with
  | zero => exact .error
  | succ fuel ih =>
    unfold type
    split
    case isTrue => exact .error
    case isFalse shallow =>
      have shallow : d ≤ maxDepth := Nat.le_of_not_lt shallow
      dsimp only
      split
      case isTrue opened =>
        refine .skip opened fun o _ => .bind (ih (d + 1) _) fun inner text rest inside => ?_
        refine .bind (punct_reads ']' _) ?_
        rintro _ c rest ⟨rfl, closed⟩
        refine .imp (mark_reads _ _) ?_
        rintro ms _ ⟨mark, marked, rfl⟩
        simpa using Grammar.TypeRef.list o ⟨c, closed⟩ shallow inside marked
      case isFalse =>
        refine .bind (name_reads _) ?_
        rintro _ t rest ⟨rfl, named⟩
        refine .imp (mark_reads _ _) ?_
        rintro ms _ ⟨mark, marked, rfl⟩
        exact .name ⟨t, named⟩ shallow marked

/-- The offset behind the last of some tokens. -/
def EndsAt (ts : List Token) (stop : Nat) : Prop := ts.getLast?.map Token.stop = some stop

theorem endsAt_concat (ts : List Token) (t : Token) : EndsAt (ts ++ [t]) t.stop := by
  simp [EndsAt]

def ValueUpTo (d : Nat) (us : List Token) (stop : Nat) : Prop := Value d us ∧ EndsAt us stop

/-- The rest of a list, and where it ends. -/
def Items (d : Nat) (us : List Token) (stop : Nat) : Prop :=
  ∃ items : List (List Token), ∃ c : Punct ']',
    us = items.flatten ++ [c.1] ∧ (∀ v ∈ items, Value (d + 1) v) ∧ stop = c.1.stop

/-- The rest of an object, and where it ends. -/
def Members (d : Nat) (us : List Token) (stop : Nat) : Prop :=
  ∃ members : List Entry, ∃ c : Punct '\x7d',
    us = members.flatMap Entry.tokens ++ [c.1] ∧ (∀ e ∈ members, Value (d + 1) e.value) ∧ stop = c.1.stop

/-! Each reader of values reads what it should if those do that it calls with less fuel. -/

theorem value_reads {fuel d : Nat} (lists : ∀ ts, Reads ts (items fuel d ts) (Items d))
    (objects : ∀ ts, Reads ts (members fuel d ts) (Members d)) (ts : List Token) :
    Reads ts (value (fuel + 1) d ts) (ValueUpTo d) := by
  unfold value
  split
  case isTrue => exact .error
  case isFalse shallow =>
    have shallow : d ≤ maxDepth := Nat.le_of_not_lt shallow
    cases ts with
    | nil => exact .error
    | cons t rest =>
      dsimp only
      split
      case h_1 dollar =>
        refine .cons (.bind (name_reads _) ?_)
        rintro _ n _ ⟨rfl, named⟩
        exact .pure ⟨.reference ⟨t, dollar⟩ ⟨n, named⟩ shallow, rfl⟩
      case h_6 opened =>
        refine .cons (.imp (lists rest) ?_)
        rintro _ _ ⟨items, c, rfl, inside, rfl⟩
        exact ⟨.list ⟨t, opened⟩ c shallow inside, endsAt_concat (t :: _) c.1⟩
      case h_7 opened =>
        refine .cons (.imp (objects rest) ?_)
        rintro _ _ ⟨members, c, rfl, inside, rfl⟩
        exact ⟨.object ⟨t, opened⟩ c shallow inside, endsAt_concat (t :: _) c.1⟩
      case h_8 => exact .error
      all_goals exact .cons (.pure ⟨.scalar shallow (by simp [*]), rfl⟩)

theorem items_reads {fuel d : Nat} (values : ∀ ts, Reads ts (value fuel (d + 1) ts) (ValueUpTo (d + 1)))
    (others : ∀ ts, Reads ts (items fuel d ts) (Items d)) (ts : List Token) :
    Reads ts (items (fuel + 1) d ts) (Items d) := by
  unfold items
  cases ts with
  | nil => exact .error
  | cons t rest =>
    dsimp only
    split
    case isTrue closed => exact .cons (.pure ⟨[], ⟨t, closed⟩, rfl, by simp, rfl⟩)
    case isFalse =>
      refine .bind (values _) fun v _ rest first => ?_
      refine .imp (others rest) ?_
      rintro _ _ ⟨items, c, rfl, inside, rfl⟩
      exact ⟨v :: items, c, by simp, by simpa using ⟨first.1, inside⟩, rfl⟩

theorem members_reads {fuel d : Nat} (values : ∀ ts, Reads ts (value fuel (d + 1) ts) (ValueUpTo (d + 1)))
    (others : ∀ ts, Reads ts (members fuel d ts) (Members d)) (ts : List Token) :
    Reads ts (members (fuel + 1) d ts) (Members d) := by
  unfold members
  cases ts with
  | nil => exact .error
  | cons t rest =>
    dsimp only
    split
    case isTrue closed => exact .cons (.pure ⟨[], ⟨t, closed⟩, rfl, by simp, rfl⟩)
    case isFalse =>
      refine .bind (name_reads _) ?_
      rintro _ n _ ⟨rfl, named⟩
      refine .bind (punct_reads ':' _) ?_
      rintro _ colon _ ⟨rfl, separates⟩
      refine .bind (values _) fun v _ rest first => ?_
      refine .imp (others rest) ?_
      rintro _ _ ⟨members, c, rfl, inside, rfl⟩
      exact ⟨⟨⟨n, named⟩, ⟨colon, separates⟩, v⟩ :: members, c, by simp [Entry.tokens],
        by simpa using ⟨first.1, inside⟩, rfl⟩

/-- The three readers of values call each other. -/
theorem values_read (fuel : Nat) : ∀ d ts,
    Reads ts (value fuel d ts) (ValueUpTo d) ∧ Reads ts (items fuel d ts) (Items d) ∧
    Reads ts (members fuel d ts) (Members d) := by
  -- Each of them hands less fuel to the others, so that one induction serves all three.
  induction fuel with
  | zero => exact fun d ts => ⟨.error, .error, .error⟩
  | succ fuel ih =>
    have values (d : Nat) (ts : List Token) := (ih d ts).1
    have lists (d : Nat) (ts : List Token) := (ih d ts).2.1
    have objects (d : Nat) (ts : List Token) := (ih d ts).2.2
    exact fun d ts => ⟨value_reads (lists d) (objects d) ts, items_reads (values (d + 1)) (lists d) ts,
      members_reads (values (d + 1)) (objects d) ts⟩

section Lists

variable {α : Type} {G : List Token → α → Prop} {close : Char}

/-- Behind a part the list is closed, or goes on with another one. -/
theorem others_read {a : α} {others : Except Stop (List α × List Token)}
    (read : Reads ts others fun us as => Until close G us as ∧ as ≠ []) :
    Reads ts (if isAt (.punct close) ts then .ok ([a], ts.drop 1)
        else others >>= fun (as, ts) => .ok (a :: as, ts))
      fun us whole => ∃ as, whole = a :: as ∧ Until close G us as := by
  split
  case isTrue closed => exact .skip closed fun c _ => .pure ⟨[], rfl, .stop c⟩
  case isFalse =>
    refine .bind read fun us as rest inside => ?_
    exact .pure ⟨as, rfl, by simpa using inside.1⟩

end Lists

theorem arguments_read (fuel d : Nat) (ts : List Token) :
    Reads ts (arguments fuel d ts) fun us names => Until ')' (Grammar.Argument d) us names ∧ names ≠ [] := by
  induction fuel generalizing ts with
  | zero => exact .error
  | succ fuel ih =>
    unfold arguments
    refine .bind (name_reads _) ?_
    rintro _ n _ ⟨rfl, named⟩
    refine .bind (punct_reads ':' _) ?_
    rintro _ colon _ ⟨rfl, separates⟩
    refine .bind (values_read fuel (d + 1) _).1 fun v _ rest first => ?_
    refine .imp (others_read (ih rest)) ?_
    rintro us _ ⟨names, rfl, others⟩
    have argument := Grammar.Argument.mk (d := d) ⟨⟨n, named⟩, ⟨colon, separates⟩, v⟩ first.1
    exact ⟨by simpa [Entry.tokens] using Until.next argument others, by simp⟩

theorem optionalArguments_read (fuel d : Nat) (ts : List Token) :
    Reads ts (optionalArguments fuel d ts) (Arguments d) := by
  unfold optionalArguments
  split
  case isTrue opened =>
    refine .skip opened fun o _ => .imp (arguments_read fuel d _) ?_
    exact fun us names inside => .present (inside.1.enclosed o inside.2)
  case isFalse => exact .pure .absent

theorem directives_read (fuel d : Nat) (ts : List Token) :
    Reads ts (directives fuel d ts) fun us _ => Directives d us := by
  induction fuel generalizing ts with
  | zero => exact .error
  | succ fuel ih =>
    unfold directives
    split
    case isTrue signed =>
      refine .skip signed fun sign _ => .bind (name_reads _) ?_
      rintro _ n _ ⟨rfl, named⟩
      refine .bind (optionalArguments_read fuel d _) fun as names rest arguments => ?_
      refine .imp (ih rest) fun us _ others => ?_
      simpa using Directives.cons sign ⟨n, named⟩ arguments others
    case isFalse => exact .pure .nil

/-- What follows the name of a field. -/
theorem fieldRest_reads {fuel d : Nat}
    (sets : ∀ d ts, Reads ts (selectionSet fuel d ts) (SelectionSet d)) (name : String)
    (called : Option String) (ts : List Token) :
    Reads ts (do
      let (arguments, ts) ← optionalArguments fuel d ts
      let (_, ts) ← directives fuel d ts
      if isAt (.punct '\x7b') ts then
        let (_, ts) ← selectionSet fuel (d + 1) ts
        return (⟨name, called, arguments⟩, ts)
      else return (⟨name, called, arguments⟩, ts)) fun us (f : RootField) =>
      ∃ as arguments ds, Arguments d as arguments ∧ Directives d ds ∧ f = ⟨name, called, arguments⟩ ∧
        (us = as ++ ds ∨ ∃ ss inner, us = as ++ ds ++ ss ∧ SelectionSet (d + 1) ss inner) := by
  refine .bind (optionalArguments_read fuel d ts) fun as arguments rest given => ?_
  refine .bind (directives_read fuel d rest) fun ds _ rest directed => ?_
  dsimp only
  split
  case isTrue =>
    refine .bind (sets (d + 1) rest) fun ss inner rest nested => ?_
    exact .pure ⟨as, arguments, ds, given, directed, rfl, .inr ⟨ss, inner, by simp, nested⟩⟩
  case isFalse =>
    exact .pure ⟨as, arguments, ds, given, directed, rfl, .inl (by simp)⟩

/-! Each reader of selections reads what it should if those do that it calls with less fuel. -/

theorem selectionSet_reads {fuel d : Nat} (inner : ∀ ts, Reads ts (selections fuel d ts) (Selections d))
    (ts : List Token) : Reads ts (selectionSet (fuel + 1) d ts) (SelectionSet d) := by
  unfold selectionSet
  split
  case isTrue => exact .error
  case isFalse shallow =>
    have shallow : d ≤ maxDepth := Nat.le_of_not_lt shallow
    refine .bind (punct_reads '\x7b' ts) ?_
    rintro _ o rest ⟨rfl, opened⟩
    dsimp only
    split
    case isTrue => exact .error
    case isFalse some =>
      have inside : Reads rest (selections fuel d rest)
          fun us fields => us <+: rest ∧ Selections d us fields :=
        (inner rest).impFront fun us fields front read => ⟨front, read⟩
      refine .bind inside ?_
      rintro us fields behind ⟨front, read⟩
      cases read with
      | stop c =>
        obtain ⟨more, rfl⟩ := front
        exact absurd (by simp [isAt, c.2]) some
      | next first others =>
        exact .pure (by simpa using SelectionSet.mk ⟨o, opened⟩ shallow first others)

/-- What follows the dots of a fragment. -/
def Spread (d : Nat) (us : List Token) (fields : List RootField) : Prop :=
  ∀ dots : TokenOf .spread, Selection d (dots.1 :: us) fields

theorem selections_reads {fuel d : Nat} (inner : ∀ ts, Reads ts (selections fuel d ts) (Selections d))
    (spreads : ∀ ts, Reads ts (spread fuel d ts) (Spread d))
    (fields : ∀ ts, Reads ts (field fuel d ts) fun us f => Selection d us [f]) (ts : List Token) :
    Reads ts (selections (fuel + 1) d ts) (Selections d) := by
  unfold selections
  cases ts with
  | nil => exact .error
  | cons t rest =>
    dsimp only
    split
    case h_1 closed => exact .cons (.pure (.stop ⟨t, closed⟩))
    case h_2 dots =>
      refine .cons (.bind (spreads rest) fun us fields rest first => ?_)
      refine .bind (inner rest) fun vs others rest more => ?_
      exact .pure (by simpa using Selections.next (first ⟨t, dots⟩) more)
    case h_3 =>
      refine .bind (fields (t :: rest)) fun us f rest first => ?_
      refine .bind (inner rest) fun vs others rest more => ?_
      exact .pure (by simpa using Selections.next first more)
    case h_4 => exact .error

theorem spread_reads {fuel d : Nat} (sets : ∀ ts, Reads ts (selectionSet fuel d ts) (SelectionSet d))
    (ts : List Token) : Reads ts (spread (fuel + 1) d ts) (Spread d) := by
  unfold spread
  split
  case isTrue on =>
    refine .skipWord on fun word => .bind (name_reads _) ?_
    rintro _ type rest ⟨rfl, named⟩
    refine .bind (directives_read fuel d rest) fun ds _ rest directed => ?_
    refine .imp (sets rest) fun us fields set dots => ?_
    simpa using Selection.inline dots (.on word ⟨type, named⟩) directed set
  case isFalse plain =>
    split
    case isTrue named =>
      refine .skip named fun name here => ?_
      refine .bind (directives_read fuel d _) fun ds _ rest directed => ?_
      have other : name.1.text ≠ "on" := by
        intro same
        rw [here] at plain
        exact plain (by simp [atWord, name.2, same])
      exact .pure fun dots => by simpa using Selection.spread dots name other directed
    case isFalse =>
      refine .bind (directives_read fuel d ts) fun ds _ rest directed => ?_
      refine .imp (sets rest) fun us fields set dots => ?_
      exact .inline dots .absent directed set

theorem field_reads {fuel d : Nat} (sets : ∀ d ts, Reads ts (selectionSet fuel d ts) (SelectionSet d))
    (ts : List Token) : Reads ts (field (fuel + 1) d ts) fun us f => Selection d us [f] := by
  unfold field
  refine .bind (name_reads ts) ?_
  rintro _ n rest ⟨rfl, named⟩
  dsimp only
  split
  case isTrue separated =>
    refine .skip separated fun colon _ => .bind (name_reads _) ?_
    rintro _ m rest ⟨rfl, meant⟩
    refine .imp (fieldRest_reads sets m.text (some n.text) rest) ?_
    rintro us f ⟨as, arguments, ds, given, directed, rfl, whole⟩
    have head : FieldHead d (n :: colon.1 :: m :: (as ++ ds)) ⟨m.text, some n.text, arguments⟩ :=
      .called ⟨n, named⟩ colon ⟨m, meant⟩ given directed
    rcases whole with rfl | ⟨ss, inner, rfl, nested⟩
    · exact .leaf head
    · simpa using Selection.nested head nested
  case isFalse =>
    refine .imp (fieldRest_reads sets n.text none rest) ?_
    rintro us f ⟨as, arguments, ds, given, directed, rfl, whole⟩
    have head : FieldHead d (n :: (as ++ ds)) ⟨n.text, none, arguments⟩ :=
      .plain ⟨n, named⟩ given directed
    rcases whole with rfl | ⟨ss, inner, rfl, nested⟩
    · exact .leaf head
    · simpa using Selection.nested head nested

/-- The four readers of selections call each other. -/
theorem selections_read (fuel : Nat) : ∀ d ts,
    Reads ts (selectionSet fuel d ts) (SelectionSet d) ∧
    Reads ts (selections fuel d ts) (Selections d) ∧
    Reads ts (spread fuel d ts) (Spread d) ∧
    (Reads ts (field fuel d ts) fun us f => Selection d us [f]) := by
  induction fuel with
  | zero =>
    intro d ts
    unfold selectionSet selections spread field
    exact ⟨.error, .error, .error, .error⟩
  | succ fuel ih =>
    have sets (d : Nat) (ts : List Token) := (ih d ts).1
    have inner (d : Nat) (ts : List Token) := (ih d ts).2.1
    have spreads (d : Nat) (ts : List Token) := (ih d ts).2.2.1
    have fields (d : Nat) (ts : List Token) := (ih d ts).2.2.2
    exact fun d ts => ⟨selectionSet_reads (inner d) ts, selections_reads (inner d) (spreads d) (fields d) ts,
      spread_reads (sets d) ts, field_reads sets ts⟩

/-- The slice that is cut out for a value is its source text. -/
theorem slice_eq_sourceText {source : List Char} {us : List Token} {stop : Nat} (front : us <+: ts)
    (ends : EndsAt us stop) :
    slice source ((ts.head?.map Token.start).getD stop) stop = sourceText source us := by
  obtain ⟨more, rfl⟩ := front
  cases us with
  | nil => simp [EndsAt] at ends
  | cons t us => rw [sourceText, ends]; rfl

theorem defaultValue_reads (source : List Char) (fuel : Nat) (ts : List Token) :
    Reads ts (defaultValue source fuel ts) (Optional (DefaultValue source) none) := by
  unfold defaultValue
  split
  case isTrue here =>
    refine .skip here fun equals _ => ?_
    have inside : Reads (ts.drop 1) (value fuel 0 (ts.drop 1))
        fun us stop => us <+: ts.drop 1 ∧ Value 0 us ∧ EndsAt us stop :=
      (values_read fuel 0 _).1.impFront fun us stop front read => ⟨front, read⟩
    refine .bind inside ?_
    rintro us stop rest ⟨front, read, ends⟩
    dsimp only
    rw [slice_eq_sourceText front ends]
    exact .pure (by simpa using Optional.present (DefaultValue.mk equals read))
  case isFalse => exact .pure .absent

theorem variableList_reads (source : List Char) (fuel : Nat) (ts : List Token) :
    Reads ts (variableList source fuel ts)
      fun us vars => Until ')' (VariableDefinition source) us vars ∧ vars ≠ [] := by
  induction fuel generalizing ts with
  | zero => exact .error
  | succ fuel ih =>
    unfold variableList
    refine .bind (punct_reads '$' ts) ?_
    rintro _ dollar rest ⟨rfl, marked⟩
    refine .bind (name_reads _) ?_
    rintro _ n rest ⟨rfl, named⟩
    refine .bind (punct_reads ':' _) ?_
    rintro _ colon rest ⟨rfl, separates⟩
    refine .bind (type_reads fuel 0 _) fun ts type rest typed => ?_
    refine .bind (defaultValue_reads source fuel _) fun vs default rest valued => ?_
    refine .bind (directives_read fuel 0 _) fun ds _ rest directed => ?_
    refine .imp (others_read (ih rest)) ?_
    rintro us _ ⟨vars, rfl, others⟩
    have first : VariableDefinition source _ ⟨n.text, type, default⟩ :=
      .mk ⟨dollar, marked⟩ ⟨n, named⟩ ⟨colon, separates⟩ typed valued directed
    exact ⟨by simpa using Until.next first others, by simp⟩

/-- Directives and selections at the end of a definition. -/
theorem body_reads {α : Type} (fuel d : Nat) (result : List RootField → α) (ts : List Token) :
    Reads ts (do
      let (_, ts) ← directives fuel 0 ts
      let (fields, ts) ← selectionSet fuel d ts
      return (result fields, ts)) fun us a =>
      ∃ ds ss fields, us = ds ++ ss ∧ Directives 0 ds ∧ SelectionSet d ss fields ∧ a = result fields := by
  refine .bind (directives_read fuel 0 ts) fun ds _ rest directed => ?_
  refine .bind (selections_read fuel d rest).1 fun ss fields rest set => ?_
  exact .pure ⟨ds, ss, fields, by simp, directed, set, rfl⟩

/-- What follows the name of an operation. -/
theorem operationRest_reads (source : List Char) (fuel : Nat) (kind : OperationKind)
    (called : Option String) (ts : List Token) :
    Reads ts (do
      let (vars, ts) ←
        if isAt (.punct '(') ts then variableList source fuel (ts.drop 1) else .ok ([], ts)
      let (_, ts) ← directives fuel 0 ts
      let (fields, ts) ← selectionSet fuel 0 ts
      return (⟨kind, called, vars, fields⟩, ts)) fun us (o : OperationDefinition) =>
      ∀ (word : Word kind.text) (ns : List Token), OperationName ns called →
        Grammar.Operation source (word.1 :: (ns ++ us)) o := by
  dsimp only
  split
  case isTrue opened =>
    refine .skip opened fun p _ => .bind (variableList_reads source fuel _) fun vs vars rest declared => ?_
    refine .imp (body_reads fuel 0 (OperationDefinition.mk kind called vars) rest) ?_
    rintro _ _ ⟨ds, ss, fields, rfl, directed, set, rfl⟩ word ns given
    have enclosed := declared.1.enclosed p declared.2
    simpa using Grammar.Operation.keyword word given (.present enclosed) directed set
  case isFalse =>
    refine .bind (G := fun us vars => us = [] ∧ vars = []) (.pure ⟨rfl, rfl⟩) ?_
    rintro _ _ rest ⟨rfl, rfl⟩
    refine .imp (body_reads fuel 0 (OperationDefinition.mk kind called []) rest) ?_
    rintro _ _ ⟨ds, ss, fields, rfl, directed, set, rfl⟩ word ns given
    exact .keyword word given .absent directed set

theorem operation_reads (source : List Char) (fuel : Nat) (kind : OperationKind) (ts : List Token) :
    Reads ts (operation source fuel kind ts)
      fun us o => ∀ word : Word kind.text, Grammar.Operation source (word.1 :: us) o := by
  unfold operation
  cases ts with
  | nil => exact .imp (operationRest_reads source fuel kind none []) fun us o read word => read word [] .absent
  | cons t ts =>
    dsimp only
    by_cases named : t.kind = .name
    · simp only [named, if_true]
      refine .cons (.imp (operationRest_reads source fuel kind (some t.text) ts) fun us o read word => ?_)
      exact read word [t] (.present ⟨t, named⟩)
    · simp only [named, if_false]
      exact .imp (operationRest_reads source fuel kind none (t :: ts)) fun us o read word => read word [] .absent

theorem fragment_reads (fuel : Nat) (ts : List Token) :
    Reads ts (fragment fuel ts) fun us name => ∀ word : Word "fragment", Fragment (word.1 :: us) name := by
  unfold fragment
  split
  case isTrue => exact .error
  case isFalse plain =>
    have fresh : Reads ts (name ts) fun us t => us <+: ts ∧ us = [t] ∧ t.kind = .name :=
      (name_reads ts).impFront fun us t front read => ⟨front, read⟩
    refine .bind fresh ?_
    rintro _ n rest ⟨⟨more, rfl⟩, rfl, named⟩
    have other : n.text ≠ "on" := fun same => plain (by simp [atWord, named, same])
    dsimp only
    split
    case isTrue => exact .error
    case isFalse here =>
      refine .skipWord (by simpa using here) fun on => .bind (name_reads _) ?_
      rintro _ type rest ⟨rfl, typed⟩
      refine .imp (body_reads fuel 1 (fun _ => n.text) rest) ?_
      rintro _ _ ⟨ds, ss, fields, rfl, directed, set, rfl⟩ word
      simpa using Fragment.mk word ⟨n, named⟩ on ⟨type, typed⟩ other directed set

def append (q r : Query) : Query := ⟨q.operations ++ r.operations, q.fragments ++ r.fragments⟩

theorem kindAt?_eq_some {kind : OperationKind} (found : kindAt? ts = some kind) :
    atWord kind.text ts = true := by
  cases ts with
  | nil => contradiction
  | cons t rest =>
    simp only [kindAt?, OperationKind.ofText?] at found
    split at found
    next named =>
      have same := List.find?_some found
      simp_all [atWord]
    next => contradiction

theorem definitions_read (source : List Char) (size fuel : Nat) (q : Query) (ts : List Token) :
    Reads ts (definitions source size fuel q ts)
      fun us r => ∃ more, Definitions source us more ∧ r = q.append more := by
  induction fuel generalizing q ts with
  | zero => exact .error
  | succ fuel ih =>
    unfold definitions
    split
    case isTrue => exact .pure ⟨{}, .nil, by simp [append]⟩
    case isFalse =>
      split
      case isTrue =>
        refine .bind (selections_read size 0 ts).1 fun us fields rest set => .imp (ih _ rest) ?_
        rintro vs _ ⟨more, others, rfl⟩
        exact ⟨_, .operation (.bare set) others, by simp [append]⟩
      case isFalse =>
        split
        case isTrue here =>
          refine .skipWord here fun word => .bind (fragment_reads size _) fun us name rest read => ?_
          refine .imp (ih _ rest) ?_
          rintro vs _ ⟨more, others, rfl⟩
          exact ⟨_, .fragment (read word) others, by simp [append]⟩
        case isFalse =>
          split
          case h_1 => exact .error
          case h_2 kind found =>
            refine .skipWord (kindAt?_eq_some found) fun word => ?_
            refine .bind (operation_reads source size kind _) fun us o rest read => .imp (ih _ rest) ?_
            rintro vs _ ⟨more, others, rfl⟩
            exact ⟨_, .operation (read word) others, by simp [append]⟩

/-- Definitions are read to the end of the tokens. -/
theorem definitions_end {source : List Char} {size fuel : Nat} {q r : Query} {rest : List Token}
    (given : definitions source size fuel q ts = .ok (r, rest)) : rest = [] := by
  have of_bind {α : Type} {x : Except Stop α} {f : α → Except Stop (Query × List Token)}
      (next : ∀ a, f a = .ok (r, rest) → rest = []) (given : (x >>= f) = .ok (r, rest)) : rest = [] := by
    cases x with
    | error s => contradiction
    | ok a => exact next a given
  induction fuel generalizing q ts with
  | zero => contradiction
  | succ fuel ih =>
    unfold definitions at given
    split at given
    case isTrue done =>
      cases given
      exact List.isEmpty_iff.mp done
    case isFalse =>
      split at given
      case isTrue => exact of_bind (fun _ more => ih more) given
      case isFalse =>
        split at given
        case isTrue => exact of_bind (fun _ more => ih more) given
        case isFalse =>
          split at given
          case h_1 => contradiction
          case h_2 => exact of_bind (fun _ more => ih more) given

/-- A query that is read is grammatical, and its summary is what is given. -/
theorem document_of_ofTokens {source : List Char} {q : Query} (given : ofTokens source ts = .ok q) :
    Grammar.Document source ts q := by
  unfold ofTokens at given
  cases read : definitions source (3 * ts.length + 3) (ts.length + 1) {} ts with
  | error s => rw [read] at given; contradiction
  | ok p =>
    obtain ⟨r, rest⟩ := p
    rw [read] at given
    obtain ⟨used, whole, more, defined, added⟩ := definitions_read source _ _ {} ts r rest read
    obtain rfl := definitions_end read
    obtain rfl : ts = used := by simpa using whole
    obtain rfl : r = more := by simpa [append] using added
    dsimp only [bind, Except.bind] at given
    split at given
    next => contradiction
    next some =>
      cases given
      exact ⟨defined, by simpa using some⟩

end ApiAtlas.Graph.Query
