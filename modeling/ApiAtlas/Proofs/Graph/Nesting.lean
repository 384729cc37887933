import ApiAtlas.Proofs.Graph.Spelling
import ApiAtlas.Proofs.Graph.SyntaxTree

/-! How deep the brackets of a query nest. Types, values, arguments and the selections of fields lie deeper
than what is around them, and the depth is limited; a fragment in place has braces of its own and lies no
deeper. Brackets nest as deep as fragments in place do, and not much deeper; there is no bound for all
queries. -/
namespace ApiAtlas.Graph

open Grammar
open Query (maxDepth)

def TokenKind.opens (k : TokenKind) : Bool := k = .punct '\x7b' || k = .punct '[' || k = .punct '('

def TokenKind.closes (k : TokenKind) : Bool := k = .punct '\x7d' || k = .punct ']' || k = .punct ')'

/-- The number of open brackets behind a token. -/
def Token.openedAfter (t : Token) (opened : Nat) : Nat :=
  if t.kind.opens then opened + 1 else if t.kind.closes then opened - 1 else opened

/-- The most brackets that are open at one place among some tokens. -/
def deepest (opened : Nat) : List Token → Nat
  | [] => opened
  | t :: ts => max opened (deepest (t.openedAfter opened) ts)

/-- How deep the brackets of a text nest, those in texts and comments apart. -/
def nesting (text : String) : Nat := deepest 0 (Token.ofText text.toList).1

theorem le_deepest (opened : Nat) (ts : List Token) : opened ≤ deepest opened ts := by
  cases ts with
  | nil => exact Nat.le_refl opened
  | cons t ts => exact Nat.le_max_left _ _

/-- Whatever is open in front of some tokens is open behind them, and up to `n` more on the way. -/
def Nests (n : Nat) (ts : List Token) : Prop :=
  ∀ opened rest, deepest opened (ts ++ rest) = max (opened + n) (deepest opened rest)

/-- The last of some tokens closes a bracket that is open in front of them. -/
def Closes (n : Nat) (ts : List Token) : Prop :=
  ∀ opened rest, deepest (opened + 1) (ts ++ rest) = max (opened + 1 + n) (deepest opened rest)

section Brackets

variable {m n : Nat} {ts us : List Token} {kind : TokenKind}

theorem nests_nil : Nests 0 [] := by
  intro opened rest
  have lower := le_deepest opened rest
  simp only [List.nil_append]
  omega

theorem nests_plain (t : TokenOf kind) (opens : kind.opens = false) (closes : kind.closes = false) :
    Nests 0 [t.1] := by
  intro opened rest
  simp [deepest, Token.openedAfter, t.2, opens, closes]

theorem Nests.append (first : Nests m ts) (second : Nests n us) : Nests (max m n) (ts ++ us) := by
  intro opened rest
  rw [List.append_assoc, first, second]
  omega

theorem closes_stop (c : TokenOf kind) (opens : kind.opens = false) (closes : kind.closes = true) :
    Closes 0 [c.1] := by
  intro opened rest
  simp [deepest, Token.openedAfter, c.2, opens, closes]

theorem Nests.close (first : Nests m ts) (last : Closes n us) : Closes (max m n) (ts ++ us) := by
  intro opened rest
  rw [List.append_assoc, first, last]
  omega

theorem Closes.enclose (last : Closes n ts) (o : TokenOf kind) (opens : kind.opens = true) :
    Nests (n + 1) (o.1 :: ts) := by
  intro opened rest
  have behind := last opened rest
  simp only [List.cons_append, deepest, Token.openedAfter, o.2, opens, if_true, behind]
  omega

end Brackets

def NestsWithin (n : Nat) (ts : List Token) : Prop := ∃ m ≤ n, Nests m ts

def ClosesWithin (n : Nat) (ts : List Token) : Prop := ∃ m ≤ n, Closes m ts

section Bounds

variable {α : Type} {m n d : Nat} {ts us : List Token} {kind : TokenKind}

theorem NestsWithin.nil : NestsWithin n [] := ⟨0, Nat.zero_le n, nests_nil⟩

theorem NestsWithin.mono (nests : NestsWithin m ts) (le : m ≤ n) : NestsWithin n ts := by
  obtain ⟨k, small, nests⟩ := nests
  exact ⟨k, Nat.le_trans small le, nests⟩

theorem NestsWithin.append (first : NestsWithin n ts) (second : NestsWithin n us) :
    NestsWithin n (ts ++ us) := by
  obtain ⟨k, small, first⟩ := first
  obtain ⟨l, less, second⟩ := second
  exact ⟨max k l, Nat.max_le.mpr ⟨small, less⟩, first.append second⟩

theorem NestsWithin.cons (t : TokenOf kind) (opens : kind.opens = false) (closes : kind.closes = false)
    (others : NestsWithin n ts) : NestsWithin n (t.1 :: ts) :=
  .append ⟨0, Nat.zero_le n, nests_plain t opens closes⟩ others

theorem NestsWithin.flatten {tss : List (List Token)} (each : ∀ ts ∈ tss, NestsWithin n ts) :
    NestsWithin n tss.flatten := by
  induction tss with
  | nil => exact .nil
  | cons ts tss ih =>
    obtain ⟨first, others⟩ := List.forall_mem_cons.mp each
    exact first.append (ih others)

theorem ClosesWithin.stop (c : TokenOf kind) (opens : kind.opens = false) (closes : kind.closes = true) :
    ClosesWithin n [c.1] := ⟨0, Nat.zero_le n, closes_stop c opens closes⟩

theorem NestsWithin.close (first : NestsWithin n ts) (last : ClosesWithin n us) :
    ClosesWithin n (ts ++ us) := by
  obtain ⟨k, small, first⟩ := first
  obtain ⟨l, less, last⟩ := last
  exact ⟨max k l, Nat.max_le.mpr ⟨small, less⟩, first.close last⟩

theorem ClosesWithin.enclose (last : ClosesWithin n ts) (o : TokenOf kind) (opens : kind.opens = true) :
    NestsWithin (n + 1) (o.1 :: ts) := by
  obtain ⟨k, small, last⟩ := last
  exact ⟨k + 1, Nat.succ_le_succ small, last.enclose o opens⟩

/-- Parts in parentheses. -/
theorem parentheses_nest {G : List Token → α → Prop} {nothing : List α} {as : List α}
    (each : ∀ ts a, G ts a → NestsWithin n ts)
    (given : Optional (Grammar.Enclosed '(' ')' G) nothing ts as) : NestsWithin (n + 1) ts := by
  have inside {ts : List Token} {as : List α} (parts : Until ')' G ts as) : ClosesWithin n ts := by
    induction parts with
    | stop c => exact .stop c rfl rfl
    | next first _ ih => exact (each _ _ first).close ih
  cases given with
  | absent => exact .nil
  | present enclosed =>
    obtain ⟨o, first, others⟩ := enclosed
    exact ((each _ _ first).close (inside others)).enclose o rfl

end Bounds

/-! The parts of a query that lie at a depth `d`. -/
section Parts

variable {d : Nat} {ts : List Token}

theorem type_nests {text : String} (typed : Grammar.TypeRef d ts text) :
    NestsWithin (maxDepth + 1 - d) ts := by
  have marks {n : Nat} {ms : List Token} {mark : String} (marked : Mark ms mark) : NestsWithin n ms := by
    cases marked with
    | absent => exact .nil
    | present t => exact .cons t rfl rfl .nil
  induction typed with
  | name t _ marked => exact .cons t rfl rfl (marks marked)
  | @list d _ _ _ _ o c shallow _ marked ih =>
    have inside := (ih.close (.stop c rfl rfl)).enclose o rfl
    have whole := (inside.mono (by omega : _ ≤ maxDepth + 1 - d)).append (marks marked)
    simpa using whole

theorem value_nests (read : Value d ts) : NestsWithin (maxDepth + 1 - d) ts := by
  induction read with
  | reference dollar name => exact .cons dollar rfl rfl (.cons name rfl rfl .nil)
  | @scalar d t _ kind =>
    have plain : t.kind.opens = false ∧ t.kind.closes = false := by
      simp only [List.mem_cons, List.not_mem_nil, or_false] at kind
      rcases kind with same | same | same | same <;> simp [same, TokenKind.opens, TokenKind.closes]
    exact .cons ⟨t, rfl⟩ plain.1 plain.2 .nil
  | list o c shallow _ ih =>
    have inside := ((NestsWithin.flatten ih).close (.stop c rfl rfl)).enclose o rfl
    exact inside.mono (by omega)
  | @object d members o c shallow _ ih =>
    have each : ∀ ts ∈ members.map Entry.tokens, NestsWithin (maxDepth + 1 - (d + 1)) ts := by
      intro ts member
      obtain ⟨e, listed, rfl⟩ := List.mem_map.mp member
      exact .cons e.name rfl rfl (.cons e.colon rfl rfl (ih e listed))
    have inside := ((NestsWithin.flatten each).close (.stop c rfl rfl)).enclose o rfl
    rw [List.flatMap_def]
    exact inside.mono (by omega)

theorem arguments_nest {names : List String} (given : Arguments d ts names) :
    NestsWithin (maxDepth - d + 1) ts := by
  refine parentheses_nest (fun ts name read => ?_) given
  obtain ⟨e, valued⟩ := read
  have inside := (value_nests valued).mono (by omega : maxDepth + 1 - (d + 1) ≤ maxDepth - d)
  exact .cons e.name rfl rfl (.cons e.colon rfl rfl inside)

theorem directives_nest (directed : Directives d ts) : NestsWithin (maxDepth - d + 1) ts := by
  induction directed with
  | nil => exact .nil
  | cons sign name given _ ih =>
    exact .cons sign rfl rfl (.cons name rfl rfl ((arguments_nest given).append ih))

theorem fieldHead_nests {f : RootField} (head : FieldHead d ts f) : NestsWithin (maxDepth - d + 1) ts := by
  cases head with
  | plain name given directed =>
    exact .cons name rfl rfl ((arguments_nest given).append (directives_nest directed))
  | called called colon name given directed =>
    have behind := (arguments_nest given).append (directives_nest directed)
    exact .cons called rfl rfl (.cons colon rfl rfl (.cons name rfl rfl behind))

theorem default_nests {source : List Char} {default : Option String}
    (given : Optional (DefaultValue source) none ts default) : NestsWithin (maxDepth + 1) ts := by
  cases given with
  | absent => exact .nil
  | present valued =>
    obtain ⟨equals, read⟩ := valued
    exact .cons equals rfl rfl (value_nests read)

theorem condition_nests {n : Nat} (condition : TypeCondition ts) : NestsWithin n ts := by
  cases condition with
  | absent => exact .nil
  | on word type => exact .cons ⟨word.1, word.2.1⟩ rfl rfl (.cons type rfl rfl .nil)

theorem variables_nest {source : List Char} {vars : List Variable} (declared : Variables source ts vars) :
    NestsWithin (maxDepth + 2) ts := by
  refine parentheses_nest (fun ts v read => ?_) declared
  obtain ⟨dollar, name, colon, typed, valued, directed⟩ := read
  have behind := (type_nests typed).append ((default_nests valued).append (directives_nest directed))
  exact .cons dollar rfl rfl (.cons name rfl rfl (.cons colon rfl rfl behind))

end Parts

/-! Selections. What they nest is not less than their fragments in place, and more by what the limit of the
depth allows. -/
namespace SelectionTree

/-- The most fragments in place that are open at one place. -/
def inPlaceDepth : SelectionTree → Nat
  | nil => 0
  | field _ below others => max below.inPlaceDepth others.inPlaceDepth
  | spread _ others => others.inPlaceDepth
  | inPlace inside others => max (inside.inPlaceDepth + 1) others.inPlaceDepth

/-- Selections at a depth, up to the closing brace, have so many fragments in place, one in the other. -/
def ClosesWith (d fragments : Nat) (ts : List Token) : Prop :=
  ∃ n, fragments ≤ n ∧ n ≤ maxDepth - d + 1 + fragments ∧ Closes n ts

variable {d k : Nat} {ts us : List Token} {t : SelectionTree}

/-- What is in front of them and does not nest deeper than the depth allows makes no difference. -/
theorem ClosesWith.behind (front : NestsWithin (maxDepth - d + 1) ts) (closes : ClosesWith d k us) :
    ClosesWith d k (ts ++ us) := by
  obtain ⟨m, small, front⟩ := front
  obtain ⟨n, least, most, closes⟩ := closes
  exact ⟨max m n, by omega, by omega, front.close closes⟩

theorem closes_of_spelled (spelled : Spelled d ts t) (shallow : d ≤ maxDepth) :
    ClosesWith d t.inPlaceDepth ts := by
  induction spelled with
  | stop c => exact ⟨0, Nat.le_refl 0, Nat.zero_le _, closes_stop c rfl rfl⟩
  | leaf head _ ih =>
    have whole := (ih shallow).behind (fieldHead_nests head)
    rwa [inPlaceDepth, inPlaceDepth, Nat.zero_max]
  | @nested d _ _ _ below _ others o head deeper _ _ _ inside ih =>
    obtain ⟨m, low, high, within⟩ := inside deeper
    obtain ⟨n, least, most, behind⟩ := ih shallow
    -- What is selected below a field has one depth less left, which makes up for its braces.
    have here : ClosesWith d (max below.inPlaceDepth others.inPlaceDepth) _ :=
      ⟨max (m + 1) n, by omega, by omega, (within.enclose o rfl).close behind⟩
    rw [List.append_assoc]
    exact here.behind (fieldHead_nests head)
  | spread dots name _ directed _ ih =>
    exact (ih shallow).behind (.cons dots rfl rfl (.cons name rfl rfl (directives_nest directed)))
  | @inPlace d _ _ _ fragment _ others dots o condition directed _ _ _ _ inside ih =>
    obtain ⟨m, low, high, within⟩ := inside shallow
    obtain ⟨n, least, most, behind⟩ := ih shallow
    have here : ClosesWith d (max (fragment.inPlaceDepth + 1) others.inPlaceDepth) _ :=
      ⟨max (m + 1) n, by omega, by omega, (within.enclose o rfl).close behind⟩
    have front := NestsWithin.cons dots rfl rfl ((condition_nests condition).append (directives_nest directed))
    simpa [inPlaceDepth] using here.behind front

/-- Selections in braces, behind what does not nest deeper than the depth allows. -/
theorem nests_of_enclosed (front : NestsWithin (maxDepth + 2) us) (spelled : Enclosed d ts t) :
    ∃ n, t.inPlaceDepth < n ∧ n ≤ maxDepth + 2 + t.inPlaceDepth ∧ Nests n (us ++ ts) := by
  obtain ⟨m, small, front⟩ := front
  obtain ⟨o, shallow, -, spelled⟩ := spelled
  obtain ⟨n, least, most, last⟩ := closes_of_spelled spelled shallow
  exact ⟨max m (n + 1), by omega, by omega, front.append (last.enclose o rfl)⟩

end SelectionTree

theorem OperationTree.nests_of_spelled {source : List Char} {ts : List Token} {o : OperationTree}
    (spelled : Spelled source ts o) :
    ∃ n, o.selections.inPlaceDepth < n ∧ n ≤ maxDepth + 2 + o.selections.inPlaceDepth ∧ Nests n ts := by
  cases spelled with
  | bare set => exact SelectionTree.nests_of_enclosed .nil set
  | keyword word named declared directed set =>
    have names {n : Nat} {ns : List Token} {called : Option String} (named : OperationName ns called) :
        NestsWithin n ns := by
      cases named with
      | absent => exact .nil
      | present name => exact .cons name rfl rfl .nil
    have behind := (variables_nest declared).append ((directives_nest directed).mono (by omega))
    have front := NestsWithin.cons ⟨word.1, word.2.1⟩ rfl rfl ((names named).append behind)
    simpa using SelectionTree.nests_of_enclosed front set

theorem fragment_nests {ts : List Token} {f : String × SelectionTree} (spelled : FragmentSpelled ts f) :
    ∃ n, f.2.inPlaceDepth < n ∧ n ≤ maxDepth + 2 + f.2.inPlaceDepth ∧ Nests n ts := by
  obtain ⟨word, name, on, type, -, directed, set⟩ := spelled
  have front := NestsWithin.cons ⟨word.1, word.2.1⟩ rfl rfl (.cons name rfl rfl
    (.cons ⟨on.1, on.2.1⟩ rfl rfl (.cons type rfl rfl (directives_nest directed))))
  exact SelectionTree.nests_of_enclosed (front.mono (by omega)) set

namespace QueryTree

/-- The most braces of a definition and its fragments in place that are open at one place. -/
def layers (t : QueryTree) : Nat :=
  max (t.operations.foldr (fun o n => max (o.selections.inPlaceDepth + 1) n) 0)
    (t.fragments.foldr (fun f n => max (f.2.inPlaceDepth + 1) n) 0)

theorem nests_of_spelled {source : List Char} {ts : List Token} {t : QueryTree}
    (spelled : Spelled source ts t) :
    ∃ n, t.layers ≤ n ∧ n ≤ maxDepth + 1 + t.layers ∧ Nests n ts := by
  induction spelled with
  | nil => exact ⟨0, Nat.le_refl 0, Nat.zero_le _, nests_nil⟩
  | operation first _ ih =>
    obtain ⟨m, low, high, first⟩ := OperationTree.nests_of_spelled first
    obtain ⟨n, least, most, behind⟩ := ih
    refine ⟨max m n, ?_, ?_, first.append behind⟩ <;> simp only [layers, List.foldr_cons] at * <;> omega
  | fragment first _ ih =>
    obtain ⟨m, low, high, first⟩ := fragment_nests first
    obtain ⟨n, least, most, behind⟩ := ih
    refine ⟨max m n, ?_, ?_, first.append behind⟩ <;> simp only [layers, List.foldr_cons] at * <;> omega

end QueryTree

theorem nesting_of_nests {text : String} {n : Nat} (nests : Nests n (Token.ofText text.toList).1) :
    nesting text = n := by
  have whole := nests 0 []
  simp only [List.append_nil, deepest] at whole
  rw [nesting, whole]
  omega

namespace QueryTree

theorem nesting_of_isOf {text : String} {t : QueryTree} (tree : t.IsOf text) :
    t.layers ≤ nesting text ∧ nesting text ≤ maxDepth + 1 + t.layers := by
  obtain ⟨n, least, most, nests⟩ := nests_of_spelled tree
  rw [nesting_of_nests nests]
  exact ⟨least, most⟩

end QueryTree

/-! Fragments in place, one in the other. -/
namespace SelectionTree

def sunk : Nat → SelectionTree
  | 0 => field ⟨"a", none, []⟩ nil nil
  | n + 1 => inPlace (sunk n) nil

def sunkText : Nat → List Char
  | 0 => ['a', '\x7d']
  | n + 1 => '.' :: '.' :: '.' :: '\x7b' :: (sunkText n ++ ['\x7d'])

theorem inPlaceDepth_sunk (n : Nat) : (sunk n).inPlaceDepth = n := by
  induction n with
  | zero => rfl
  | succ n ih => simp [sunk, inPlaceDepth, ih]

theorem sunk_ne_nil (n : Nat) : sunk n ≠ nil := by cases n <;> exact nofun

theorem spells_sunk (n : Nat) (rest : List Char) :
    Token.Spells (sunkText n) rest fun ts => Spelled 0 ts (sunk n) := by
  have stop (rest : List Char) : Token.Spells ['\x7d'] rest fun ts => Spelled 0 ts nil := by
    refine (Token.Spells.punct (by decide) (.nothing (G := (· = [])) rfl)).mono ?_
    rintro _ ⟨c, _, rfl, rfl⟩
    exact .stop c
  induction n generalizing rest with
  | zero =>
    have name : Token.Spells ['a'] ('\x7d' :: rest) _ := .name (by decide) nofun (by
      rintro _ ⟨⟩
      decide)
    refine (name.append (stop rest)).mono ?_
    rintro _ ⟨_, us, rfl, ⟨n, rfl, same⟩, closed⟩
    have head : FieldHead 0 [n.1] ⟨"a", none, []⟩ := by
      have plain := FieldHead.plain n .absent (.nil (d := 0))
      rwa [same] at plain
    exact .leaf head closed
  | succ n ih =>
    have dots : Token.Spells ['.', '.', '.'] ('\x7b' :: (sunkText n ++ ['\x7d'] ++ rest))
        fun ts => ∃ t : TokenOf .spread, ts = [t.1] ∧ t.1.text = _ :=
      .one (by decide) (by decide) (by simp [Token.scan, Token.isPunct])
    have behind := (ih ('\x7d' :: rest)).append (stop rest)
    refine (dots.append (.punct (by decide) behind)).mono ?_
    rintro _ ⟨_, _, rfl, ⟨d, rfl, -⟩, o, _, rfl, us, vs, rfl, inside, closed⟩
    have whole := Spelled.inPlace d o .absent .nil (Nat.zero_le _) (sunk_ne_nil n) inside closed
    simpa [sunk] using whole

end SelectionTree

def sunkQuery (n : Nat) : String := String.ofList ('\x7b' :: SelectionTree.sunkText n)

namespace QueryTree

def sunk (n : Nat) : QueryTree where
  operations := [{ kind := .query, selections := .sunk n }]

theorem layers_sunk (n : Nat) : (sunk n).layers = n + 1 := by
  simp [sunk, layers, SelectionTree.inPlaceDepth_sunk]

theorem sunk_isOf (n : Nat) :
    (sunk n).IsOf (sunkQuery n) ∧ Query.read (sunkQuery n) = .ok (sunk n).summary := by
  have spelled : Token.Spells ('\x7b' :: SelectionTree.sunkText n) [] _ :=
    .punct (by decide) (SelectionTree.spells_sunk n [])
  obtain ⟨ts, offset, lexed, o, us, rfl, body⟩ := spelled.ofText
  have lexed : Token.ofText (sunkQuery n).toList = (o.1 :: us, .complete offset) := by
    rw [sunkQuery, String.toList_ofList, lexed]
  have set := SelectionTree.Enclosed.mk o (Nat.zero_le _) (SelectionTree.sunk_ne_nil n) body
  have tree : Spelled (sunkQuery n).toList (o.1 :: us ++ []) (sunk n) := .operation (.bare set) .nil
  rw [List.append_nil] at tree
  have isOf : (sunk n).IsOf (sunkQuery n) := by rwa [IsOf, lexed]
  exact ⟨isOf, read_of_isOf isOf (congrArg Prod.snd lexed) (List.cons_ne_nil _ _)⟩

end QueryTree

/-- The brackets of a query that is read nest as deep as the braces of fragments in place in those of a
definition, and deeper by no more than the limit of the depth and one. -/
theorem nesting_of_read {text : String} {q : Query} (accepted : Query.read text = .ok q) :
    (∃ t : QueryTree, t.IsOf text) ∧
      ∀ t : QueryTree, t.IsOf text → t.layers ≤ nesting text ∧ nesting text ≤ maxDepth + 1 + t.layers :=
  ⟨QueryTree.exists_of_read accepted, fun _ tree => QueryTree.nesting_of_isOf tree⟩

/-- A field in a fragment in place that is in another one. -/
theorem nesting_of_sunkQuery :
    ∃ q, Query.read (sunkQuery 2) = .ok q ∧ (QueryTree.sunk 2).IsOf (sunkQuery 2) ∧
      3 ≤ nesting (sunkQuery 2) ∧ nesting (sunkQuery 2) ≤ maxDepth + 4 := by
  obtain ⟨tree, accepted⟩ := QueryTree.sunk_isOf 2
  have bounds := (nesting_of_read accepted).2 _ tree
  rw [QueryTree.layers_sunk] at bounds
  exact ⟨_, accepted, tree, bounds⟩

/-- No number bounds how deep the brackets of every query that is read nest. -/
theorem nesting_not_bounded :
    ¬ ∃ bound, ∀ (text : String) (q : Query), Query.read text = .ok q → nesting text ≤ bound := by
  rintro ⟨bound, all⟩
  obtain ⟨tree, accepted⟩ := QueryTree.sunk_isOf bound
  have deep := (QueryTree.nesting_of_isOf tree).1
  have shallow := all _ _ accepted
  rw [QueryTree.layers_sunk] at deep
  omega

end ApiAtlas.Graph
