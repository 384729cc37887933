import ApiAtlas.Graph.Failure
import ApiAtlas.Proofs.Discovery.Key
import Mathlib.Data.List.Infix

/-! What the advice on a rejected query goes by. It is chosen by words in the message of the first problem, and a
message has the names from the query and the catalog in it. A word never lies across the edge of a name, so that
the words of a message are those of its fixed texts, which depend on the kind of problem only, and those that the
names happen to say. -/
namespace ApiAtlas

theorem occursIn_iff {part text : List Char} : occursIn part text = true ↔ part <:+: text := by
  induction text with
  | nil => simp [occursIn]
  | cons c rest ih =>
    simp only [occursIn, Bool.or_eq_true, ih, List.isPrefixOf_iff_prefix, List.infix_cons_iff]

namespace Case

theorem lowerSpecial_apart : ∀ entry ∈ lowerSpecial, 0x80 ≤ entry.1 := by decide

/-- The capitals are the only run among the ASCII characters. -/
theorem lowerRuns_apart : ∀ r ∈ lowerRuns, 0x80 ≤ r.first ∨ 0x41 ≤ r.first ∧ r.last ≤ 0x5A := by
  decide +kernel

/-- An ASCII character other than a capital is its own lower case. -/
theorem lower_of_plain {c : Char} (ascii : c.toNat < 0x80) (small : ¬(0x41 ≤ c.toNat ∧ c.toNat ≤ 0x5A)) :
    lower c = [c] := by
  have special : lowerSpecial.lookup c.toNat = none := by
    refine List.lookup_eq_none_iff.mpr fun entry member => bne_iff_ne.mpr ?_
    have apart := lowerSpecial_apart entry member
    omega
  have runs : lowerRuns.image? c.toNat = none := by
    refine List.findSome?_eq_none_iff.mpr fun r member => if_neg ?_
    have apart := lowerRuns_apart r member
    omega
  rw [lower, mapped, special, runs]

/-- A text of such characters is in lower case. -/
theorem lower_of_all_plain {cs : List Char}
    (plain : cs.all fun c => c.toNat < 0x80 && !(0x41 ≤ c.toNat && c.toNat ≤ 0x5A)) :
    cs.flatMap lower = cs := by
  have each : ∀ c ∈ cs, lower c = [c] := by
    intro c member
    have here := List.all_eq_true.mp plain c member
    simp only [Bool.and_eq_true, decide_eq_true_eq, Bool.not_eq_true', Bool.and_eq_false_iff,
      decide_eq_false_iff_not] at here
    exact lower_of_plain here.1 (by omega)
  calc cs.flatMap lower = cs.flatMap (fun c => [c]) := List.flatMap_congr each
    _ = cs := List.flatMap_singleton' cs

end Case

namespace Graph

def hasWord (text word : String) : Bool := occursIn word.toList (text.toList.flatMap Case.lower)

namespace Advice

/-- The words that advice goes by. -/
def words : List String :=
  ["field", "doesn't exist", "does not exist", "cannot query", "variable", "type", "syntax", "parse",
    "unauthorized", "unauthenticated", "forbidden"]

def ofWords (said : String → Bool) : Advice :=
  if said "field" && (said "doesn't exist" || said "does not exist" || said "cannot query") then .unknownField
  else if said "variable" && said "type" then .variableType
  else if said "syntax" || said "parse" then .badQuery
  else if said "unauthorized" || said "unauthenticated" || said "forbidden" then .unauthorized
  else .other

theorem ofMessage_eq (message : String) : ofMessage message = ofWords (hasWord message) := rfl

theorem ofWords_congr {said said' : String → Bool} (same : ∀ w ∈ words, said w = said' w) :
    ofWords said = ofWords said' := by
  simp only [words, List.forall_mem_cons] at same
  simp only [ofWords, same]

/-- Words that lead to advice if they are said together. -/
def triggers : List (List String) :=
  [["field", "doesn't exist"], ["field", "does not exist"], ["field", "cannot query"], ["variable", "type"],
    ["syntax"], ["parse"], ["unauthorized"], ["unauthenticated"], ["forbidden"]]

/-- Advice for no reason in particular is given if no trigger is said. -/
theorem ofWords_eq_other_iff {said : String → Bool} :
    ofWords said = .other ↔ ¬ ∃ group ∈ triggers, ∀ w ∈ group, said w = true := by
  simp only [triggers, List.exists_mem_cons_iff, List.forall_mem_cons, List.not_mem_nil, false_and, exists_false,
    or_false, false_implies, implies_true, and_true, ofWords]
  grind

theorem text_injective : Function.Injective text := by
  intro a b
  cases a <;> cases b <;> decide

end Advice

/-! Messages in parts. -/
section Parts

/-- No occurrence of a word begins in a text and ends behind it. -/
def endsApart (word text : List Char) : Bool :=
  (List.range word.length).all fun k => k = 0 || !(word.take k).isSuffixOf text

def startsApart (word text : List Char) (more : Bool) : Bool :=
  (List.range word.length).all fun k =>
    k = 0 || !(word.drop k).isPrefixOf text && !(more && text.isPrefixOf (word.drop k))

/-- A word never lies across the edge of a name, where names stand between the texts. -/
def sealed (word : List Char) : List (List Char) → Bool
  | text :: next :: rest =>
    endsApart word text && startsApart word next !rest.isEmpty && sealed word (next :: rest)
  | _ => true

variable {word text rest u v : List Char}

theorem length_mem_range (split : word = u ++ v) (right : v ≠ []) : u.length ∈ List.range word.length := by
  have some := List.length_pos_iff.mpr right
  simp only [List.mem_range, split, List.length_append]
  omega

theorem infix_append_of_endsApart (apart : endsApart word text = true) :
    word <:+: text ++ rest ↔ word <:+: text ∨ word <:+: rest := by
  rw [List.infix_append_iff_ne_nil]
  refine or_congr_right (or_iff_left ?_)
  rintro ⟨u, v, left, right, split, ends, -⟩
  have here := List.all_eq_true.mp apart _ (length_mem_range split right)
  simp [split, left, List.isSuffixOf_iff_suffix.mpr ends] at here

theorem infix_append_of_startsApart {name : List Char} {more : Bool} (apart : startsApart word text more = true)
    (last : more = false → rest = []) :
    word <:+: name ++ (text ++ rest) ↔ word <:+: name ∨ word <:+: text ++ rest := by
  rw [List.infix_append_iff_ne_nil]
  refine or_congr_right (or_iff_left ?_)
  rintro ⟨u, v, left, right, split, -, starts⟩
  have here := List.all_eq_true.mp apart _ (length_mem_range split right)
  cases more with
  | false =>
    rw [last rfl, List.append_nil] at starts
    simp [split, left, List.isPrefixOf_iff_prefix.mpr starts] at here
  | true =>
    rcases List.prefix_or_prefix_of_prefix starts (List.prefix_append text rest) with inside | beyond
    · simp [split, left, List.isPrefixOf_iff_prefix.mpr inside] at here
    · simp [split, left, List.isPrefixOf_iff_prefix.mpr beyond] at here

/-- The words in names with texts around them are those in the texts and those in the names. -/
theorem infix_parts_iff {α : Type} {name fixed : α → List Char} {parts : List α}
    (apart : sealed word (text :: parts.map fixed) = true) :
    word <:+: text ++ parts.flatMap (fun p => name p ++ fixed p) ↔
      (∃ f ∈ text :: parts.map fixed, word <:+: f) ∨ ∃ p ∈ parts, word <:+: name p := by
  induction parts generalizing text with
  | nil => simp
  | cons p parts ih =>
    simp only [List.map_cons, sealed, Bool.and_eq_true] at apart
    obtain ⟨⟨ends, starts⟩, others⟩ := apart
    have last : (!(parts.map fixed).isEmpty) = false → parts.flatMap (fun p => name p ++ fixed p) = [] := by
      intro none
      have empty : parts = [] := by simpa using none
      rw [empty, List.flatMap_nil]
    rw [List.flatMap_cons, List.append_assoc, infix_append_of_endsApart ends,
      infix_append_of_startsApart starts last, ih others]
    simp only [List.map_cons, List.exists_mem_cons_iff, or_assoc, or_left_comm]

end Parts

/-! The message of a problem. -/

inductive ProblemKind where
  | unknownField | unknownArgument | missingArgument | unsupported | selection
deriving DecidableEq, Repr

/-- The words that the message of a problem has whatever the names are. -/
def ProblemKind.words : ProblemKind → List String
  | .unknownField => ["field", "doesn't exist", "type"]
  | .unknownArgument => ["field"]
  | .missingArgument => ["field", "type"]
  | .unsupported | .selection => []

/-- Only the words for an unknown field lead to advice. -/
theorem ProblemKind.words_lead_nowhere {kind : ProblemKind} (other : kind ≠ .unknownField) :
    ∀ group ∈ Advice.triggers, ¬ ∀ w ∈ group, w ∈ kind.words := by
  revert other
  cases kind <;> decide

def ProblemKind.advice : ProblemKind → Advice
  | .unknownField => .unknownField
  | .unknownArgument | .missingArgument | .unsupported | .selection => .other

/-- The text with which a message begins, and the names in it, each with the text behind it. -/
abbrev Parts := String × List (String × String)

def Parts.text (p : Parts) : String := p.2.foldl (fun before q => before ++ q.1 ++ q.2) p.1

theorem Parts.toList_text (p : Parts) :
    p.text.toList = p.1.toList ++ p.2.flatMap fun q => q.1.toList ++ q.2.toList := by
  obtain ⟨opening, rest⟩ := p
  unfold text
  induction rest generalizing opening with
  | nil => simp
  | cons q rest ih =>
    rw [List.foldl_cons, ih]
    simp

def SelectionError.parts : SelectionError → Parts
  | .unknown name => ("document has no operation named '", [(name, "'")])
  | .nameNeeded => ("an operation name is required when the document contains multiple operations", [])

namespace CheckProblem

def kind : CheckProblem → ProblemKind
  | .selection _ => .selection
  | .unsupported _ => .unsupported
  | .unknownField .. => .unknownField
  | .unknownArgument .. => .unknownArgument
  | .missingArgument .. => .missingArgument

def parts : CheckProblem → Parts
  | .selection e => e.parts
  | .unsupported kind => ("schema does not support " ++ kind.text ++ " operations", [])
  | .unknownField name root => ("field '", [(name, "' doesn't exist on type '"), (root, "'")])
  | .unknownArgument name root field =>
    ("unknown argument '", [(name, "' on field '"), (root, "."), (field, "'")])
  | .missingArgument name type field =>
    ("field '", [(field, "' argument '"), (name, "' of type '"), (type, "' is required but not provided")])

def names (p : CheckProblem) : List String := p.parts.2.map Prod.fst

def texts (p : CheckProblem) : List String := p.parts.1 :: p.parts.2.map Prod.snd

theorem message_eq (p : CheckProblem) : p.message = p.parts.text := by
  cases p with
  | selection e => cases e <;> rfl
  | _ => rfl

def blank : CheckProblem → CheckProblem
  | .selection (.unknown _) => .selection (.unknown "")
  | .selection .nameNeeded => .selection .nameNeeded
  | .unsupported kind => .unsupported kind
  | .unknownField .. => .unknownField "" ""
  | .unknownArgument .. => .unknownArgument "" "" ""
  | .missingArgument .. => .missingArgument "" "" ""

def blanks : List CheckProblem :=
  [.selection (.unknown ""), .selection .nameNeeded, .unsupported .query, .unsupported .mutation,
    .unsupported .subscription, .unknownField "" "", .unknownArgument "" "" "", .missingArgument "" "" ""]

theorem blank_mem (p : CheckProblem) : p.blank ∈ blanks := by
  cases p with
  | selection e => cases e <;> simp [blank, blanks]
  | unsupported kind => cases kind <;> simp [blank, blanks]
  | _ => simp [blank, blanks]

theorem texts_blank (p : CheckProblem) : p.blank.texts = p.texts ∧ p.blank.kind = p.kind := by
  cases p with
  | selection e => cases e <;> exact ⟨rfl, rfl⟩
  | _ => exact ⟨rfl, rfl⟩

theorem blanks_plain : ∀ p ∈ blanks, ∀ text ∈ p.texts,
    text.toList.all fun c => c.toNat < 0x80 && !(0x41 ≤ c.toNat && c.toNat ≤ 0x5A) := by
  decide +kernel

theorem blanks_sealed : ∀ p ∈ blanks, ∀ w ∈ Advice.words,
    sealed w.toList (p.texts.map String.toList) = true := by
  decide +kernel

theorem blanks_words : ∀ p ∈ blanks, ∀ w ∈ Advice.words,
    (∃ text ∈ p.texts, occursIn w.toList text.toList = true) ↔ w ∈ p.kind.words := by
  decide +kernel

/-- What a problem says: what its message says whatever the names are, and what the names say. -/
def mentions (p : CheckProblem) (word : String) : Bool :=
  p.kind.words.contains word || p.names.any (hasWord · word)

theorem lower_message (p : CheckProblem) : p.message.toList.flatMap Case.lower =
    p.parts.1.toList ++ p.parts.2.flatMap fun q => q.1.toList.flatMap Case.lower ++ q.2.toList := by
  have plain : ∀ text ∈ p.texts, text.toList.flatMap Case.lower = text.toList := by
    obtain ⟨same, -⟩ := texts_blank p
    intro text member
    exact Case.lower_of_all_plain (blanks_plain _ (blank_mem p) text (same ▸ member))
  obtain ⟨opening, others⟩ := List.forall_mem_cons.mp plain
  rw [message_eq, Parts.toList_text, List.flatMap_append, opening, List.flatMap_assoc]
  congr 1
  refine List.flatMap_congr fun q member => ?_
  rw [List.flatMap_append, others q.2 (List.mem_map_of_mem member)]

theorem hasWord_message {p : CheckProblem} {w : String} (known : w ∈ Advice.words) :
    hasWord p.message w = p.mentions w := by
  obtain ⟨same, kinds⟩ := texts_blank p
  have apart : sealed w.toList (p.parts.1.toList :: p.parts.2.map fun q => q.2.toList) = true := by
    have each := blanks_sealed _ (blank_mem p) w known
    rwa [same, texts, List.map_cons, List.map_map] at each
  have fixed : (∃ f ∈ p.parts.1.toList :: p.parts.2.map fun q => q.2.toList, w.toList <:+: f) ↔
      w ∈ p.kind.words := by
    have own := blanks_words _ (blank_mem p) w known
    rw [same, kinds] at own
    simp only [← own, texts, occursIn_iff, List.exists_mem_cons_iff, List.mem_map,
      exists_exists_and_eq_and]
  have named : (∃ q ∈ p.parts.2, w.toList <:+: q.1.toList.flatMap Case.lower) ↔
      p.names.any (hasWord · w) = true := by
    simp only [names, List.any_map, List.any_eq_true, hasWord, occursIn_iff, Function.comp_def]
  rw [Bool.eq_iff_iff, hasWord, occursIn_iff, lower_message, infix_parts_iff apart, fixed, named, mentions,
    Bool.or_eq_true, List.contains_iff_mem]

/-- The names in a problem say what other advice goes by. The message of an unknown field has words of its own
that go first. -/
def Misleads (p : CheckProblem) : Prop :=
  p.kind ≠ .unknownField ∧ ∃ group ∈ Advice.triggers, ∀ w ∈ group, p.mentions w = true

instance (p : CheckProblem) : Decidable p.Misleads := inferInstanceAs (Decidable (_ ∧ _))

/-- Names that say none of the words that advice goes by do not mislead. -/
theorem not_misleads_of_silent {p : CheckProblem}
    (silent : ∀ n ∈ p.names, ∀ w ∈ Advice.words, hasWord n w = false) : ¬ p.Misleads := by
  rintro ⟨other, group, listed, said⟩
  have known : ∀ group ∈ Advice.triggers, ∀ w ∈ group, w ∈ Advice.words := by decide
  have own : ∀ w ∈ group, w ∈ p.kind.words := by
    intro w member
    have quiet : p.names.any (hasWord · w) = false :=
      List.any_eq_false.mpr fun n named => by simp [silent n named w (known group listed w member)]
    simpa [mentions, quiet] using said w member
  exact ProblemKind.words_lead_nowhere other group listed own

theorem ofMessage_eq (p : CheckProblem) : Advice.ofMessage p.message = .ofWords p.mentions := by
  rw [Advice.ofMessage_eq]
  exact Advice.ofWords_congr fun w known => hasWord_message known

theorem ofMessage_eq_iff (p : CheckProblem) : Advice.ofMessage p.message = p.kind.advice ↔ ¬ p.Misleads := by
  rw [ofMessage_eq]
  by_cases unknown : p.kind = .unknownField
  · have own : ∀ w ∈ ["field", "doesn't exist"], p.mentions w = true := by
      intro w member
      have inside : w ∈ ProblemKind.words .unknownField := by
        revert w
        decide
      simp [mentions, unknown, inside]
    have found : Advice.ofWords p.mentions = .unknownField := by
      simp [Advice.ofWords, own]
    rw [found, unknown]
    exact iff_of_true rfl fun misleads => misleads.1 unknown
  · have other : p.kind.advice = .other := by
      revert unknown
      cases p.kind <;> simp [ProblemKind.advice]
    rw [other, Advice.ofWords_eq_other_iff, Misleads, and_iff_right unknown]

end CheckProblem

theorem Failure.advice_rejected (p : CheckProblem) (others : List CheckProblem) :
    (rejected (p :: others)).advice = (Advice.ofWords p.mentions).text := by
  rw [advice, Advice.ofProblems, p.ofMessage_eq]

/-- Two rejected queries with the same kind of problem get the same advice exactly if the names in both problems
say nothing that advice goes by, or those in both say what leads to the same advice. -/
theorem Catalog.same_advice_iff {c c' : Catalog} {q q' : Query} {name name' : Option String}
    {p p' : CheckProblem} {others others' : List CheckProblem} (rejected : c.check q name = p :: others)
    (rejected' : c'.check q' name' = p' :: others') (same : p.kind = p'.kind) :
    ((Failure.rejected (c.check q name)).advice = p.kind.advice.text ↔ ¬ p.Misleads) ∧
    ((Failure.rejected (c.check q name)).advice = (Failure.rejected (c'.check q' name')).advice ↔
      ¬ p.Misleads ∧ ¬ p'.Misleads ∨
      p.Misleads ∧ p'.Misleads ∧ Advice.ofWords p.mentions = Advice.ofWords p'.mentions) := by
  have plain := p.ofMessage_eq_iff
  have plain' := p'.ofMessage_eq_iff
  rw [CheckProblem.ofMessage_eq] at plain plain'
  rw [rejected, rejected', Failure.advice_rejected, Failure.advice_rejected, Advice.text_injective.eq_iff,
    Advice.text_injective.eq_iff]
  refine ⟨plain, ?_⟩
  by_cases misled : p.Misleads <;> by_cases misled' : p'.Misleads
  · simp only [misled, misled', not_true_eq_false, false_and, true_and, false_or]
  · rw [plain'.mpr misled', ← same, plain]
    simp [misled, misled']
  · rw [plain.mpr misled, same, eq_comm, plain']
    simp [misled, misled']
  · rw [plain.mpr misled, plain'.mpr misled', same]
    simp [misled, misled']

def Field.books : Field where
  name := "books"
  type := .wrapped .list none (.base .scalar (some "String"))

def Introspection.library : Introspection where
  query := some "Query"
  types := [{ kind := .object, name := some "Query", fields := some [.books] }]

def Query.giving (argument : String) : Query :=
  ⟨[⟨.query, none, [], [⟨"books", none, [argument]⟩]⟩], []⟩

theorem Catalog.check_giving (argument : String) :
    (build "" .library).check (.giving argument) none = [.unknownArgument argument "Query" "books"] := by
  have offered : (build "" .library).operations .query = [.ofField .library .query .books] :=
    List.mergeSort_singleton _
  have found : (build "" .library).find? .query "books" = some (.ofField .library .query .books) := by
    rw [find?, offered]
    rfl
  calc (build "" .library).check (.giving argument) none
      = (build "" .library).fieldProblems .query "Query" ⟨"books", none, [argument]⟩ := List.append_nil _
    _ = [.unknownArgument argument "Query" "books"] := by
      simp only [fieldProblems, found]
      rfl

theorem Catalog.orders_advised_alike :
    let c := build "" .library
    ((Failure.rejected (c.check (Query.giving "sort") none)).advice = Advice.other.text) ∧
    (Failure.rejected (c.check (Query.giving "sort") none)).advice =
      (Failure.rejected (c.check (Query.giving "order") none)).advice := by
  obtain ⟨plain, alike⟩ := same_advice_iff (check_giving "sort") (check_giving "order") rfl
  exact ⟨plain.mpr (by decide +kernel), alike.mpr (.inl (by decide +kernel))⟩

/-- An argument whose name says that something cannot be parsed gets other advice than one whose name does not. -/
theorem Catalog.parse_advised_apart :
    ¬ ∀ (c c' : Catalog) (q q' : Query) (name name' : Option String) (p p' : CheckProblem)
      (others others' : List CheckProblem), c.check q name = p :: others → c'.check q' name' = p' :: others' →
      p.kind = p'.kind →
      (Failure.rejected (c.check q name)).advice = (Failure.rejected (c'.check q' name')).advice := by
  intro alike
  have here := alike _ _ _ _ none none _ _ [] [] (check_giving "sort") (check_giving "parse") rfl
  rw [check_giving, check_giving, Failure.advice_rejected, Failure.advice_rejected,
    Advice.text_injective.eq_iff] at here
  exact absurd here (by decide +kernel)

end Graph
end ApiAtlas
