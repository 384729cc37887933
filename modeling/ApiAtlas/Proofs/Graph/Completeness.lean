import ApiAtlas.Proofs.Graph.Soundness

/-! Whatever is grammatical is read. A reader is given the tokens of a part and more behind them; it takes
the part and leaves the rest, provided that the rest does not begin with a mark by which the part could go
on. Three units of fuel for each token are enough: a reader calls at most two others before it takes one. -/
namespace ApiAtlas.Graph

theorem OperationKind.ofText?_text (kind : OperationKind) : ofText? kind.text = some kind := by
  cases kind <;> decide

theorem OperationKind.text_ne (kind : OperationKind) : kind.text ≠ "fragment" := by
  cases kind <;> decide

namespace Query

open Grammar

/-- Fuel for one call more. -/
theorem exists_succ {n : Nat} (positive : 0 < n) : ∃ m, n = m + 1 := ⟨n - 1, by omega⟩

/-- No token of the given marks comes first. -/
def Clear (marks : List Char) (ts : List Token) : Prop := ∀ c ∈ marks, isAt (.punct c) ts = false

theorem Clear.mono {marks fewer : List Char} {ts : List Token} (clear : Clear marks ts)
    (inside : fewer ⊆ marks) : Clear fewer ts :=
  fun c member => clear c (inside member)

variable {fuel d : Nat} {ts us rest : List Token}

theorem ok_bind {α β : Type} (a : α) (f : α → Except Stop β) : (Except.ok a >>= f) = f a := rfl

theorem name_cons (t : Name) (ts : List Token) : name (t.1 :: ts) = .ok (t.1, ts) := by
  simp [name, t.2]

theorem punct_cons {c : Char} (t : Punct c) (ts : List Token) : punct c (t.1 :: ts) = .ok (t.1, ts) := by
  simp [punct, t.2]

theorem isAt_cons {kind other : TokenKind} (t : TokenOf kind) (ts : List Token) :
    isAt other (t.1 :: ts) = decide (kind = other) := by
  simp [isAt, t.2]

theorem mark_complete {ms : List Token} {mark : String} (marked : Mark ms mark) (text : String)
    (clear : Clear ['!'] rest) :
    (if isAt (.punct '!') (ms ++ rest) then .ok (text ++ "!", (ms ++ rest).drop 1) else .ok (text, ms ++ rest)) =
      (.ok (text ++ mark, rest) : Except Stop _) := by
  cases marked with
  | absent => simp [clear '!' (by simp)]
  | present t => simp [isAt_cons]

theorem type_complete {text : String} (typed : Grammar.TypeRef d ts text) (enough : ts.length ≤ fuel)
    (clear : Clear ['!'] rest) : type fuel d (ts ++ rest) = .ok (text, rest) := by
  induction typed generalizing fuel rest with
  | name t shallow marked =>
    obtain ⟨fuel, rfl⟩ := exists_succ (by simp at enough; omega : 0 < fuel)
    rw [type, if_neg (Nat.not_lt.mpr shallow)]
    simp only [List.cons_append, isAt_cons, name_cons, ok_bind]
    exact mark_complete marked _ clear
  | list o c shallow _ marked ih =>
    obtain ⟨fuel, rfl⟩ := exists_succ (by simp at enough; omega : 0 < fuel)
    rw [type, if_neg (Nat.not_lt.mpr shallow)]
    simp only [List.cons_append, isAt_cons, List.drop_succ_cons, List.drop_zero, List.append_assoc]
    rw [ih (by simp at enough; omega) (by simp [Clear, isAt_cons])]
    simp only [ok_bind, punct_cons]
    exact mark_complete marked _ clear

theorem value_head (read : Value d ts) : ∃ t us, ts = t :: us ∧ t.kind ≠ .punct ']' := by
  cases read with
  | reference dollar => exact ⟨_, _, rfl, by simp [dollar.2]⟩
  | list o => exact ⟨_, _, rfl, by simp [o.2]⟩
  | object o => exact ⟨_, _, rfl, by simp [o.2]⟩
  | scalar _ kind =>
    refine ⟨_, _, rfl, fun same => ?_⟩
    simp [same] at kind

theorem items_complete {values : List (List Token)} (c : Punct ']')
    (each : ∀ v ∈ values, Value (d + 1) v ∧ ∀ fuel rest, 3 * v.length ≤ fuel →
      ∃ stop, value fuel (d + 1) (v ++ rest) = .ok (stop, rest))
    (enough : 3 * (values.flatten.length + 1) ≤ fuel) :
    items fuel d (values.flatten ++ c.1 :: rest) = .ok (c.1.stop, rest) := by
  induction values generalizing fuel with
  | nil =>
    obtain ⟨fuel, rfl⟩ := exists_succ (by omega : 0 < fuel)
    simp [items, c.2]
  | cons v values ih =>
    obtain ⟨fuel, rfl⟩ := exists_succ (by omega : 0 < fuel)
    obtain ⟨first, others⟩ := List.forall_mem_cons.mp each
    obtain ⟨t, us, rfl, more⟩ := value_head first.1
    simp only [List.flatten_cons, List.length_append, List.length_cons] at enough
    obtain ⟨stop, read⟩ := first.2 fuel (values.flatten ++ c.1 :: rest) (by simp; omega)
    unfold items
    simp only [List.flatten_cons, List.append_assoc, List.cons_append, if_neg more] at read ⊢
    rw [read, ok_bind]
    exact ih others (by omega)

theorem members_complete {entries : List Entry} (c : Punct '\x7d')
    (each : ∀ e ∈ entries, ∀ fuel rest, 3 * e.value.length ≤ fuel →
      ∃ stop, value fuel (d + 1) (e.value ++ rest) = .ok (stop, rest))
    (enough : 3 * ((entries.flatMap Entry.tokens).length + 1) ≤ fuel) :
    members fuel d (entries.flatMap Entry.tokens ++ c.1 :: rest) = .ok (c.1.stop, rest) := by
  induction entries generalizing fuel with
  | nil =>
    obtain ⟨fuel, rfl⟩ := exists_succ (by omega : 0 < fuel)
    simp [members, c.2]
  | cons e entries ih =>
    obtain ⟨fuel, rfl⟩ := exists_succ (by omega : 0 < fuel)
    obtain ⟨first, others⟩ := List.forall_mem_cons.mp each
    simp only [List.flatMap_cons, Entry.tokens, List.length_append, List.length_cons] at enough
    obtain ⟨stop, read⟩ := first fuel (entries.flatMap Entry.tokens ++ c.1 :: rest) (by omega)
    unfold members
    simp only [List.flatMap_cons, Entry.tokens, List.cons_append, List.append_assoc, e.name.2,
      reduceCtorEq, if_false, name_cons, punct_cons, ok_bind, read]
    exact ih others (by omega)

theorem value_complete (read : Value d ts) : ∀ fuel rest, 3 * ts.length ≤ fuel →
    ∃ stop, value fuel d (ts ++ rest) = .ok (stop, rest) := by
  induction read with
  | reference dollar name shallow =>
    intro fuel rest enough
    obtain ⟨fuel, rfl⟩ := exists_succ (by simp at enough; omega : 0 < fuel)
    refine ⟨name.1.stop, ?_⟩
    unfold value
    simp only [if_neg (Nat.not_lt.mpr shallow), List.cons_append, List.nil_append, dollar.2, name_cons,
      ok_bind]
    rfl
  | @scalar d t shallow kind =>
    intro fuel rest enough
    obtain ⟨fuel, rfl⟩ := exists_succ (by simp at enough; omega : 0 < fuel)
    refine ⟨t.stop, ?_⟩
    simp only [List.mem_cons, List.not_mem_nil, or_false] at kind
    rcases kind with same | same | same | same <;>
      simp [value, Nat.not_lt.mpr shallow, same]
  | list o c shallow inside ih =>
    intro fuel rest enough
    obtain ⟨fuel, rfl⟩ := exists_succ (by simp at enough; omega : 0 < fuel)
    unfold value
    simp only [if_neg (Nat.not_lt.mpr shallow), List.cons_append, o.2, List.append_assoc]
    exact ⟨_, items_complete c (fun v member => ⟨inside v member, ih v member⟩) (by simp at enough ⊢; omega)⟩
  | object o c shallow inside ih =>
    intro fuel rest enough
    obtain ⟨fuel, rfl⟩ := exists_succ (by simp at enough; omega : 0 < fuel)
    unfold value
    simp only [if_neg (Nat.not_lt.mpr shallow), List.cons_append, o.2, List.append_assoc]
    exact ⟨_, members_complete c ih (by simp at enough ⊢; omega)⟩

section Lists

variable {α : Type} {G : List Token → α → Prop} {close : Char} {as : List α}

theorem others_complete {a : α} {others : Except Stop (List α × List Token)} (inside : Until close G us as)
    (starts : ∀ ts a, G ts a → ∀ rest, isAt (.punct close) (ts ++ rest) = false)
    (read : as ≠ [] → others = .ok (as, rest)) :
    (if isAt (.punct close) (us ++ rest) then .ok ([a], (us ++ rest).drop 1)
      else others >>= fun (as, ts) => .ok (a :: as, ts)) = .ok (a :: as, rest) := by
  cases inside with
  | stop c => simp [isAt_cons]
  | next first more =>
    rw [List.append_assoc, starts _ _ first, read (List.cons_ne_nil _ _)]
    rfl

end Lists

theorem argument_starts {n : String} (read : Grammar.Argument d ts n) (rest : List Token) :
    isAt (.punct ')') (ts ++ rest) = false := by
  obtain ⟨e, -⟩ := read
  simp [Entry.tokens, isAt_cons]

theorem arguments_complete {names : List String} (inside : Until ')' (Grammar.Argument d) ts names)
    (some : names ≠ []) (enough : 3 * ts.length ≤ fuel) :
    arguments fuel d (ts ++ rest) = .ok (names, rest) := by
  induction inside generalizing fuel with
  | stop => contradiction
  | @next _ _ us _ first others ih =>
    obtain ⟨e, valued⟩ := first
    simp only [Entry.tokens, List.length_append, List.length_cons] at enough
    obtain ⟨fuel, rfl⟩ := exists_succ (by omega : 0 < fuel)
    obtain ⟨stop, read⟩ := value_complete valued fuel (us ++ rest) (by omega)
    unfold arguments
    simp only [Entry.tokens, List.cons_append, List.append_assoc, name_cons, punct_cons, ok_bind, read]
    exact others_complete others (fun ts n read => argument_starts read) fun some => ih some (by omega)

theorem optionalArguments_complete {names : List String} (given : Arguments d ts names)
    (clear : isAt (.punct '(') rest = false) (enough : 3 * ts.length ≤ fuel) :
    optionalArguments fuel d (ts ++ rest) = .ok (names, rest) := by
  cases given with
  | absent => simp [optionalArguments, clear]
  | present enclosed =>
    obtain ⟨o, first, others⟩ := enclosed
    simp only [List.length_append, List.length_cons] at enough
    simp only [optionalArguments, List.cons_append, isAt_cons, decide_true, if_true, List.drop_succ_cons,
      List.drop_zero]
    exact arguments_complete (.next first others) (List.cons_ne_nil _ _) (by simp; omega)

theorem directives_clear {c : Char} (directed : Directives d ts) (other : c ≠ '@')
    (clear : isAt (.punct c) rest = false) : isAt (.punct c) (ts ++ rest) = false := by
  cases directed with
  | nil => exact clear
  | cons sign => simpa [isAt_cons] using other.symm

theorem directives_complete (directed : Directives d ts) (clear : Clear ['@', '('] rest)
    (enough : 3 * ts.length < fuel) : directives fuel d (ts ++ rest) = .ok ((), rest) := by
  induction directed generalizing fuel with
  | nil =>
    obtain ⟨fuel, rfl⟩ := exists_succ (by omega : 0 < fuel)
    simp [directives, clear '@' (by simp)]
  | cons sign name given others ih =>
    simp only [List.length_append, List.length_cons] at enough
    obtain ⟨fuel, rfl⟩ := exists_succ (by omega : 0 < fuel)
    unfold directives
    simp only [List.cons_append, isAt_cons, decide_true, if_true, List.drop_succ_cons, List.drop_zero,
      List.append_assoc, name_cons, ok_bind]
    have apart : isAt (.punct '(') (_ ++ rest) = false := directives_clear others (by decide) (clear _ (by simp))
    rw [optionalArguments_complete given apart (by omega), ok_bind]
    exact ih (by omega)

theorem arguments_clear {c : Char} {names : List String} (given : Arguments d ts names) (other : c ≠ '(')
    (clear : isAt (.punct c) rest = false) : isAt (.punct c) (ts ++ rest) = false := by
  cases given with
  | absent => exact clear
  | present enclosed =>
    obtain ⟨o, -, -⟩ := enclosed
    simpa [isAt_cons] using other.symm

theorem fieldRest_complete {as ds : List Token} {arguments : List String} (called : Option String)
    (name : String) (given : Arguments d as arguments) (directed : Directives d ds)
    (clear : Clear ['@', '('] rest) (enough : 3 * (as.length + ds.length) < fuel) :
    (do
      let (arguments, ts) ← optionalArguments fuel d (as ++ (ds ++ rest))
      let (_, ts) ← directives fuel d ts
      if isAt (.punct '\x7b') ts then
        let (_, ts) ← selectionSet fuel (d + 1) ts
        return ((⟨name, called, arguments⟩ : RootField), ts)
      else return (⟨name, called, arguments⟩, ts)) =
    if isAt (.punct '\x7b') rest then
      selectionSet fuel (d + 1) rest >>= fun (_, rest) => .ok (⟨name, called, arguments⟩, rest)
    else .ok (⟨name, called, arguments⟩, rest) := by
  have apart : isAt (.punct '(') (ds ++ rest) = false :=
    directives_clear directed (by decide) (clear _ (by simp))
  rw [optionalArguments_complete given apart (by omega), ok_bind]
  dsimp only
  rw [directives_complete directed clear (by omega), ok_bind]
  rfl

/-- Behind the head of a field there are selections, or the field is read. -/
theorem field_of_head {f : RootField} (head : FieldHead d ts f) (clear : Clear [':', '@', '('] rest)
    (enough : 3 * ts.length ≤ fuel + 1) :
    field (fuel + 1) d (ts ++ rest) =
      if isAt (.punct '\x7b') rest then selectionSet fuel (d + 1) rest >>= fun (_, rest) => .ok (f, rest)
      else .ok (f, rest) := by
  have behind : Clear ['@', '('] rest := clear.mono (by simp)
  cases head with
  | @plain as arguments ds name given directed =>
    simp only [List.length_append, List.length_cons] at enough
    have apart : isAt (.punct ':') (as ++ (ds ++ rest)) = false :=
      arguments_clear given (by decide) (directives_clear directed (by decide) (clear _ (by simp)))
    unfold field
    simp only [List.cons_append, List.append_assoc, name_cons, ok_bind, apart]
    exact fieldRest_complete none _ given directed behind (by omega)
  | @called as arguments ds called colon name given directed =>
    simp only [List.length_append, List.length_cons] at enough
    unfold field
    simp only [List.cons_append, List.append_assoc, name_cons, ok_bind, isAt_cons, decide_true, if_true,
      List.drop_succ_cons, List.drop_zero]
    exact fieldRest_complete (some _) _ given directed behind (by omega)

theorem fieldHead_head {f : RootField} (head : FieldHead d ts f) :
    ∃ t us, ts = t :: us ∧ t.kind = .name := by
  cases head with
  | plain name => exact ⟨_, _, rfl, name.2⟩
  | called called => exact ⟨_, _, rfl, called.2⟩

theorem selection_head {fields : List RootField} (read : Selection d ts fields) :
    ∃ t us, ts = t :: us ∧ (t.kind = .name ∨ t.kind = .spread) := by
  cases read with
  | leaf head =>
    obtain ⟨t, us, rfl, kind⟩ := fieldHead_head head
    exact ⟨t, us, rfl, .inl kind⟩
  | nested head =>
    obtain ⟨t, us, rfl, kind⟩ := fieldHead_head head
    exact ⟨t, _, rfl, .inl kind⟩
  | spread dots => exact ⟨_, _, rfl, .inr dots.2⟩
  | inline dots => exact ⟨_, _, rfl, .inr dots.2⟩

theorem selections_pos {fields : List RootField} (read : Selections d ts fields) : 0 < ts.length := by
  cases read with
  | stop => exact Nat.one_pos
  | next first =>
    obtain ⟨t, us, rfl, -⟩ := selection_head first
    simp

theorem selections_clear {fields : List RootField} (read : Selections d ts fields) (rest : List Token) :
    Clear ['\x7b', ':', '@', '('] (ts ++ rest) := by
  cases read with
  | stop c => simp [Clear, isAt_cons]
  | next first =>
    obtain ⟨t, us, rfl, kind | kind⟩ := selection_head first <;> simp [Clear, isAt, kind]

theorem set_head {fields : List RootField} (read : SelectionSet d ts fields) :
    ∃ (o : Punct '\x7b') (us : List Token), ts = o.1 :: us := by
  obtain ⟨o, -, -, -⟩ := read
  exact ⟨o, _, rfl⟩

/-! What it is to be read, for sets, for selections up to the closing brace, and for a selection in front of
others. -/

def SetRead (d : Nat) (ts : List Token) (fields : List RootField) : Prop :=
  ∀ fuel rest, 3 * ts.length ≤ fuel → selectionSet fuel d (ts ++ rest) = .ok (fields, rest)

def AllRead (d : Nat) (ts : List Token) (fields : List RootField) : Prop :=
  ∀ fuel rest, 3 * ts.length ≤ fuel → selections fuel d (ts ++ rest) = .ok (fields, rest)

def OneRead (d : Nat) (ts : List Token) (fields : List RootField) : Prop :=
  ∀ fuel us others rest, 3 * ts.length ≤ fuel → Selections d us others →
    selections fuel d (us ++ rest) = .ok (others, rest) →
    selections (fuel + 1) d (ts ++ (us ++ rest)) = .ok (fields ++ others, rest)

theorem set_read {fields others : List RootField} (o : Punct '\x7b') (shallow : d ≤ maxDepth)
    (first : Selection d ts fields) (more : Selections d us others) (one : OneRead d ts fields)
    (all : AllRead d us others) :
    SetRead d (o.1 :: (ts ++ us)) (if d = 0 then fields ++ others else []) := by
  intro fuel rest enough
  simp only [List.length_append, List.length_cons] at enough
  obtain ⟨fuel, rfl⟩ := exists_succ (by omega : 0 < fuel)
  obtain ⟨fuel, rfl⟩ := exists_succ (by omega : 0 < fuel)
  have inside := one fuel us others rest (by omega) more (all fuel rest (by omega))
  have apart : isAt (.punct '\x7d') (ts ++ (us ++ rest)) = false := by
    obtain ⟨t, us, rfl, kind | kind⟩ := selection_head first <;> simp [isAt, kind]
  unfold selectionSet
  simp only [if_neg (Nat.not_lt.mpr shallow), List.cons_append, List.append_assoc, punct_cons, ok_bind, apart,
    inside]
  rfl

theorem stop_read (c : Punct '\x7d') : AllRead d [c.1] [] := by
  intro fuel rest enough
  obtain ⟨fuel, rfl⟩ := exists_succ (by simp at enough; omega : 0 < fuel)
  simp [selections, c.2]

theorem next_read {fields others : List RootField} (first : Selection d ts fields)
    (more : Selections d us others) (one : OneRead d ts fields) (all : AllRead d us others) :
    AllRead d (ts ++ us) (fields ++ others) := by
  intro fuel rest enough
  have some := selections_pos more
  obtain ⟨t, ts, rfl, -⟩ := selection_head first
  simp only [List.length_append, List.length_cons] at enough
  obtain ⟨fuel, rfl⟩ := exists_succ (by omega : 0 < fuel)
  rw [List.append_assoc]
  exact one fuel us others rest (by simp; omega) more (all fuel rest (by omega))

theorem selections_of_name {t : Token} (kind : t.kind = .name) (ts : List Token) :
    selections (fuel + 1) d (t :: ts) = field fuel d (t :: ts) >>= fun (f, ts) =>
      selections fuel d ts >>= fun (others, ts) => .ok (f :: others, ts) := by
  simp only [selections, kind]
  rfl

theorem selections_of_spread {t : Token} (kind : t.kind = .spread) (ts : List Token) :
    selections (fuel + 1) d (t :: ts) = spread fuel d ts >>= fun (fields, ts) =>
      selections fuel d ts >>= fun (others, ts) => .ok (fields ++ others, ts) := by
  simp only [selections, kind]
  rfl

theorem leaf_read {f : RootField} (head : FieldHead d ts f) : OneRead d ts [f] := by
  intro fuel us others rest enough more read
  have clear := selections_clear more rest
  obtain ⟨t, vs, rfl, kind⟩ := fieldHead_head head
  obtain ⟨fuel, rfl⟩ := exists_succ (by simp at enough; omega : 0 < fuel)
  rw [List.cons_append, selections_of_name kind, ← List.cons_append,
    field_of_head head (clear.mono (by simp)) enough, clear '\x7b' (by simp)]
  simp only [Bool.false_eq_true, if_false, ok_bind, read]
  rfl

theorem nested_read {f : RootField} {inner : List RootField} {ss : List Token} (head : FieldHead d ts f)
    (nested : SelectionSet (d + 1) ss inner) (set : SetRead (d + 1) ss inner) : OneRead d (ts ++ ss) [f] := by
  intro fuel us others rest enough more read
  obtain ⟨t, vs, rfl, kind⟩ := fieldHead_head head
  obtain ⟨o, vs', rfl⟩ := set_head nested
  simp only [List.length_append, List.length_cons] at enough
  obtain ⟨fuel, rfl⟩ := exists_succ (by omega : 0 < fuel)
  rw [List.append_assoc, List.cons_append, selections_of_name kind, ← List.cons_append,
    field_of_head head (by simp [Clear, isAt_cons]) (by simp; omega), List.cons_append, isAt_cons,
    ← List.cons_append, set fuel _ (by simp; omega)]
  simp only [decide_true, if_true, ok_bind, read]
  rfl

theorem spread_read {ds : List Token} (dots : TokenOf .spread) (name : Name) (other : name.1.text ≠ "on")
    (directed : Directives d ds) : OneRead d (dots.1 :: name.1 :: ds) [] := by
  intro fuel us others rest enough more read
  simp only [List.length_cons] at enough
  obtain ⟨fuel, rfl⟩ := exists_succ (by omega : 0 < fuel)
  have clear := (selections_clear more rest).mono (by simp : ['@', '('] ⊆ _)
  have spreads : spread (fuel + 1) d (name.1 :: (ds ++ (us ++ rest))) = .ok ([], us ++ rest) := by
    unfold spread
    simp only [atWord, name.2, other, and_false, decide_false, isAt_cons, decide_true, if_true,
      List.drop_succ_cons, List.drop_zero, Bool.false_eq_true, if_false]
    rw [directives_complete directed clear (by omega), ok_bind]
    rfl
  rw [List.cons_append, selections_of_spread dots.2, List.cons_append, spreads, ok_bind]
  dsimp only
  rw [read]
  rfl

theorem inline_read {cs ds : List Token} {fields : List RootField} (dots : TokenOf .spread)
    (condition : TypeCondition cs) (directed : Directives d ds) (inside : SelectionSet d ts fields)
    (set : SetRead d ts fields) : OneRead d (dots.1 :: (cs ++ (ds ++ ts))) fields := by
  intro fuel us others rest enough more read
  simp only [List.length_cons, List.length_append] at enough
  obtain ⟨fuel, rfl⟩ := exists_succ (by omega : 0 < fuel)
  have spreads : spread (fuel + 1) d (cs ++ (ds ++ (ts ++ (us ++ rest)))) = .ok (fields, us ++ rest) := by
    obtain ⟨o, vs, rfl⟩ := set_head inside
    have clear : Clear ['@', '('] (o.1 :: vs ++ (us ++ rest)) := by simp [Clear, isAt_cons]
    have braces := set fuel (us ++ rest) (by simp at enough ⊢; omega)
    have behind : (directives fuel d (ds ++ (o.1 :: vs ++ (us ++ rest))) >>= fun (_, ts) =>
        selectionSet fuel d ts) = .ok (fields, us ++ rest) := by
      rw [directives_complete directed clear (by omega), ok_bind]
      exact braces
    unfold spread
    cases condition with
    | absent =>
      have marked : ∃ t ts, ds ++ (o.1 :: vs ++ (us ++ rest)) = t :: ts ∧ t.kind ≠ .name := by
        cases directed with
        | nil => exact ⟨_, _, rfl, by simp [o.2]⟩
        | cons sign => exact ⟨_, _, rfl, by simp [sign.2]⟩
      obtain ⟨t, ts, whole, other⟩ := marked
      rw [List.nil_append, whole]
      rw [whole] at behind
      simpa [atWord, isAt, other] using behind
    | on word type =>
      simp only [List.cons_append, List.nil_append, atWord, word.2, and_self, decide_true, if_true,
        List.drop_succ_cons, List.drop_zero, name_cons, ok_bind]
      exact behind
  simp only [List.cons_append, List.append_assoc]
  rw [selections_of_spread dots.2, spreads, ok_bind]
  dsimp only
  rw [read]
  rfl

theorem selectionSet_complete {fields : List RootField} (read : SelectionSet d ts fields) :
    SetRead d ts fields := by
  refine @SelectionSet.rec (fun d ts fields _ => SetRead d ts fields) (fun d ts fields _ => AllRead d ts fields)
    (fun d ts fields _ => OneRead d ts fields) ?_ ?_ ?_ ?_ ?_ ?_ ?_ d ts fields read
  · exact fun o shallow first more one all => set_read o shallow first more one all
  · exact stop_read
  · exact fun first more one all => next_read first more one all
  · exact leaf_read
  · exact fun head nested set => nested_read head nested set
  · exact spread_read
  · exact fun dots condition directed inside set => inline_read dots condition directed inside set

theorem defaultValue_complete {source : List Char} {default : Option String}
    (given : Optional (DefaultValue source) none ts default) (clear : isAt (.punct '=') rest = false)
    (enough : 3 * ts.length ≤ fuel) : defaultValue source fuel (ts ++ rest) = .ok (default, rest) := by
  cases given with
  | absent => simp [defaultValue, clear]
  | present valued =>
    obtain ⟨equals, valued⟩ := valued
    simp only [List.length_cons] at enough
    obtain ⟨stop, read⟩ := value_complete valued fuel rest (by omega)
    obtain ⟨used, whole, -, ends⟩ := (values_read fuel 0 _).1 stop rest read
    obtain rfl := List.append_cancel_right whole
    simp only [defaultValue, List.cons_append, isAt_cons, decide_true, if_true, List.drop_succ_cons,
      List.drop_zero, read, ok_bind, slice_eq_sourceText (List.prefix_append _ rest) ends]
    rfl

theorem defaultValue_clear {source : List Char} {default : Option String} {c : Char}
    (given : Optional (DefaultValue source) none ts default) (other : c ≠ '=')
    (clear : isAt (.punct c) rest = false) : isAt (.punct c) (ts ++ rest) = false := by
  cases given with
  | absent => exact clear
  | present valued =>
    obtain ⟨equals, -⟩ := valued
    simpa [isAt_cons] using other.symm

theorem variable_starts {source : List Char} {v : Variable} (read : VariableDefinition source ts v)
    (rest : List Token) : isAt (.punct ')') (ts ++ rest) = false := by
  obtain ⟨dollar, -, -⟩ := read
  simp [isAt_cons]

theorem variables_clear {source : List Char} {vars : List Variable}
    (inside : Until ')' (VariableDefinition source) ts vars) (rest : List Token) :
    Clear ['!', '=', '@', '('] (ts ++ rest) := by
  cases inside with
  | stop c => simp [Clear, isAt_cons]
  | next first =>
    obtain ⟨dollar, -, -⟩ := first
    simp [Clear, isAt_cons]

theorem variableList_complete {source : List Char} {vars : List Variable}
    (inside : Until ')' (VariableDefinition source) ts vars) (some : vars ≠ [])
    (enough : 3 * ts.length ≤ fuel) : variableList source fuel (ts ++ rest) = .ok (vars, rest) := by
  induction inside generalizing fuel with
  | stop => contradiction
  | @next _ _ us _ first others ih =>
    obtain ⟨dollar, name, colon, typed, valued, directed⟩ := first
    rename_i ts type vs default ds
    simp only [List.length_append, List.length_cons] at enough
    obtain ⟨fuel, rfl⟩ := exists_succ (by omega : 0 < fuel)
    have clear := variables_clear others rest
    have equals := directives_clear directed (by decide) (clear '=' (by simp))
    have mark := defaultValue_clear valued (by decide)
      (directives_clear directed (by decide) (clear '!' (by simp)))
    unfold variableList
    simp only [List.cons_append, List.append_assoc, punct_cons, name_cons, ok_bind]
    rw [type_complete typed (by omega) (by simpa [Clear] using mark), ok_bind]
    dsimp only
    rw [defaultValue_complete valued equals (by omega), ok_bind]
    dsimp only
    rw [directives_complete directed (clear.mono (by simp)) (by omega), ok_bind]
    exact others_complete others (fun ts v read => variable_starts read) fun some => ih some (by omega)

theorem body_complete {α : Type} (rest : List Token) (result : List RootField → α) {ds ss : List Token}
    {fields : List RootField} (directed : Directives 0 ds) (set : SelectionSet d ss fields)
    (enough : 3 * (ds.length + ss.length) ≤ fuel) :
    (do
      let (_, ts) ← directives fuel 0 (ds ++ (ss ++ rest))
      let (fields, ts) ← selectionSet fuel d ts
      return (result fields, ts)) = .ok (result fields, rest) := by
  have read := selectionSet_complete set fuel rest (by omega)
  obtain ⟨o, us, rfl⟩ := set_head set
  simp only [List.length_cons] at enough
  rw [directives_complete directed (by simp [Clear, isAt_cons]) (by omega), ok_bind]
  dsimp only
  rw [read]
  rfl

theorem operationRest_complete {source : List Char} (rest : List Token) (kind : OperationKind) (called : Option String)
    {vs ds ss : List Token} {vars : List Variable} {fields : List RootField}
    (declared : Variables source vs vars) (directed : Directives 0 ds) (set : SelectionSet 0 ss fields)
    (enough : 3 * (vs.length + ds.length + ss.length) ≤ fuel) :
    (do
      let (vars, ts) ←
        if isAt (.punct '(') (vs ++ (ds ++ (ss ++ rest))) then
          variableList source fuel ((vs ++ (ds ++ (ss ++ rest))).drop 1)
        else .ok ([], vs ++ (ds ++ (ss ++ rest)))
      let (_, ts) ← directives fuel 0 ts
      let (fields, ts) ← selectionSet fuel 0 ts
      return ((⟨kind, called, vars, fields⟩ : OperationDefinition), ts)) =
    .ok (⟨kind, called, vars, fields⟩, rest) := by
  have body := body_complete rest (OperationDefinition.mk kind called vars) directed set
    (by omega : _ ≤ fuel)
  obtain ⟨o, us, rfl⟩ := set_head set
  have clear : isAt (.punct '(') (ds ++ (o.1 :: us ++ rest)) = false :=
    directives_clear directed (by decide) (by simp [isAt_cons])
  cases declared with
  | absent =>
    simp only [List.nil_append, clear, Bool.false_eq_true, if_false, ok_bind]
    exact body
  | present enclosed =>
    obtain ⟨p, first, others⟩ := enclosed
    simp only [List.length_append, List.length_cons] at enough
    simp only [List.cons_append, isAt_cons, decide_true, if_true, List.drop_succ_cons, List.drop_zero]
    rw [variableList_complete (.next first others) (List.cons_ne_nil _ _) (by simp; omega), ok_bind]
    exact body

theorem operation_complete {source : List Char} {kind : OperationKind} {called : Option String}
    {ns vs ds ss : List Token} {vars : List Variable} {fields : List RootField}
    (named : OperationName ns called) (declared : Variables source vs vars) (directed : Directives 0 ds)
    (set : SelectionSet 0 ss fields) (enough : 3 * (ns.length + vs.length + ds.length + ss.length) ≤ fuel) :
    operation source fuel kind (ns ++ (vs ++ (ds ++ (ss ++ rest)))) =
      .ok (⟨kind, called, vars, fields⟩, rest) := by
  have behind := operationRest_complete rest kind called declared directed set
    (by omega : _ ≤ fuel)
  unfold operation
  cases named with
  | present n =>
    simp only [List.cons_append, List.nil_append, n.2, if_true]
    exact behind
  | absent =>
    -- Whatever comes next starts with a mark, which the reader cannot take for the missing name.
    obtain ⟨t, ts, whole, other⟩ : ∃ t ts, vs ++ (ds ++ (ss ++ rest)) = t :: ts ∧ t.kind ≠ .name := by
      obtain ⟨o, us, rfl⟩ := set_head set
      cases declared with
      | present enclosed =>
        obtain ⟨p, -, -⟩ := enclosed
        exact ⟨_, _, rfl, by simp [p.2]⟩
      | absent =>
        cases directed with
        | nil => exact ⟨_, _, rfl, by simp [o.2]⟩
        | cons sign => exact ⟨_, _, rfl, by simp [sign.2]⟩
    rw [List.nil_append]
    rw [whole] at behind ⊢
    simp only [if_neg other]
    exact behind

theorem fragment_complete {ds ss : List Token} {fields : List RootField} (n : Name) (on : Word "on")
    (type : Name) (other : n.1.text ≠ "on") (directed : Directives 0 ds) (set : SelectionSet 1 ss fields)
    (enough : 3 * (ds.length + ss.length) ≤ fuel) :
    fragment fuel (n.1 :: on.1 :: type.1 :: (ds ++ (ss ++ rest))) = .ok (n.1.text, rest) := by
  unfold fragment
  simp only [atWord, n.2, other, and_false, decide_false, Bool.false_eq_true, if_false, name_cons, ok_bind,
    on.2, and_self, decide_true, Bool.not_true, List.drop_succ_cons, List.drop_zero]
  exact body_complete rest (fun _ => n.1.text) directed set enough

theorem definitions_complete {source : List Char} {size : Nat} {q : Query} (defined : Definitions source ts q)
    (q₀ : Query) (enough : ts.length < fuel) (size_enough : 3 * ts.length ≤ size) :
    definitions source size fuel q₀ ts = .ok (q₀.append q, []) := by
  induction defined generalizing fuel q₀ with
  | nil =>
    obtain ⟨fuel, rfl⟩ := exists_succ (by omega : 0 < fuel)
    simp [definitions, append]
  | @operation _ _ us _ first _ ih =>
    simp only [List.length_append] at enough size_enough
    obtain ⟨fuel, rfl⟩ := exists_succ (by omega : 0 < fuel)
    cases first with
    | bare set =>
      have read := selectionSet_complete set size us (by omega)
      obtain ⟨o, ss, rfl⟩ := set_head set
      simp only [List.length_cons] at enough size_enough
      unfold definitions
      simp only [List.cons_append, List.isEmpty_cons, Bool.false_eq_true, if_false, isAt_cons, decide_true,
        if_true] at read ⊢
      rw [read, ok_bind]
      exact (ih _ (by omega) (by omega)).trans (by simp [append])
    | @keyword kind _ _ _ _ _ _ _ word named declared directed set =>
      simp only [List.length_append, List.length_cons] at enough size_enough
      unfold definitions
      simp only [List.cons_append, List.append_assoc, List.isEmpty_cons, Bool.false_eq_true, if_false,
        isAt, atWord, word.2, kind.text_ne, kindAt?, kind.ofText?_text, reduceCtorEq, decide_false,
        true_and, if_true, List.drop_succ_cons, List.drop_zero]
      rw [operation_complete named declared directed set (by omega), ok_bind]
      exact (ih _ (by omega) (by omega)).trans (by simp [append])
  | @fragment _ _ us _ first _ ih =>
    obtain ⟨word, n, on, type, other, directed, set⟩ := first
    simp only [List.length_append, List.length_cons] at enough size_enough
    obtain ⟨fuel, rfl⟩ := exists_succ (by omega : 0 < fuel)
    unfold definitions
    simp only [List.cons_append, List.append_assoc, List.isEmpty_cons, Bool.false_eq_true, if_false,
      isAt, atWord, word.2, reduceCtorEq, decide_false, decide_true, true_and, if_true, List.drop_succ_cons,
      List.drop_zero]
    rw [fragment_complete n on type other directed set (by omega), ok_bind]
    exact (ih _ (by omega) (by omega)).trans (by simp [append])

theorem ofTokens_of_document {source : List Char} {q : Query} (document : Grammar.Document source ts q) :
    ofTokens source ts = .ok q := by
  obtain ⟨defined, some⟩ := document
  rw [ofTokens, definitions_complete defined {} (Nat.lt_succ_self _) (by omega), ok_bind]
  simp [append, some, pure, Except.pure]

/-- A text whose tokens can all be read is accepted exactly if they are grammatical, and what is given is
what the grammar has as their summary. -/
theorem read_eq_ok_iff {text : String} {offset : Nat} (lexed : Token.ofText text.toList = (ts, .complete offset))
    (q : Query) : read text = .ok q ↔ Grammar.Document text.toList ts q := by
  have read_eq : read text = .ok q ↔ ofTokens text.toList ts = .ok q := by
    simp only [read, lexed]
    cases ofTokens text.toList ts <;> simp
  exact read_eq.trans ⟨document_of_ofTokens, ofTokens_of_document⟩

theorem read_of_toOption {text : String} {q : Query} (accepted : (read text).toOption = some q) :
    read text = .ok q := by
  cases given : read text with
  | error e => simp [given, Except.toOption] at accepted
  | ok other => simpa [given, Except.toOption] using accepted

def sampleText : String :=
  "query Q($n: [Int!] = [1, 2]) \x7b a: b(x: $n) \x7b c \x7d ... on T \x7b d \x7d \x7d fragment F on T \x7b e \x7d"

theorem sampleText_document : ∃ ts offset, Token.ofText sampleText.toList = (ts, .complete offset) ∧
    Grammar.Document sampleText.toList ts
      ⟨[⟨.query, some "Q", [⟨"n", "[Int!]", some "[1, 2]"⟩],
        [⟨"b", some "a", ["x"]⟩, ⟨"d", none, []⟩]⟩], ["F"]⟩ := by
  have lexed : Token.ofText sampleText.toList = ((Token.ofText sampleText.toList).1, .complete 87) :=
    Prod.ext rfl (by decide +kernel)
  have accepted : (read sampleText).toOption = some ⟨[⟨.query, some "Q", [⟨"n", "[Int!]", some "[1, 2]"⟩],
      [⟨"b", some "a", ["x"]⟩, ⟨"d", none, []⟩]⟩], ["F"]⟩ := by decide +kernel
  exact ⟨_, _, lexed, (read_eq_ok_iff lexed _).mp (read_of_toOption accepted)⟩

end Query
end ApiAtlas.Graph
