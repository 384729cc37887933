import ApiAtlas.Yaml.Token

/-!
Events: the nodes of the document of a YAML text, in order, with begin and end of each collection.
Tags are written out. A machine (`Builder.step`) turns tokens into events; its stack holds what is to
be done when the current node is complete, so that no nesting is too deep.
-/
namespace ApiAtlas.Yaml

inductive Event where
  | scalar (anchor : Option String) (tag : String) (style : Style) (text : String)
  | openList (anchor : Option String) (tag : String)
  | openRecord (anchor : Option String) (tag : String)
  | close
  | alias (name : String)
deriving DecidableEq, Repr, Inhabited

/-- What is expected next. -/
inductive Goal where
  /-- A node. In a block it may be a block collection, and in a record a list that is not indented. -/
  | node (block record : Bool)
  | blockItem | recordItem
  | blockKey | blockValue
  | flowItem (first : Bool)
  | pairKey | pairValue | pairEnd
  | flowKey (first : Bool) | flowValue | noValue
deriving DecidableEq, Repr

structure Builder where
  tokens : List Token
  /-- The goals still to be met, the nearest first. -/
  goals : List Goal
  /-- The events so far, the last one first. -/
  events : List Event := []

abbrev Shorthands := List (String × String)

def Shorthands.standard : Shorthands := [("!", "!"), ("!!", "tag:yaml.org,2002:")]

namespace Builder

/-- An empty node in the place of a missing one. -/
def missing : Event := .scalar none "" .plain ""

def emit (e : Event) (goals : List Goal) (b : Builder) : Builder :=
  { b with events := e :: b.events, goals }

/-- Whether a token cannot begin a node in a block collection. -/
def endsEntry : Token → Bool
  | .key | .value | .blockEnd => true
  | _ => false

/-- Anchor and tag in front of a node, in either order. -/
def properties : List Token → Option String × Option (String × String) × List Token
  | .anchor a :: .tag h s :: rest => (some a, some (h, s), rest)
  | .anchor a :: rest => (some a, none, rest)
  | .tag h s :: .anchor a :: rest => (some a, some (h, s), rest)
  | .tag h s :: rest => (none, some (h, s), rest)
  | rest => (none, none, rest)

def tagText? (shorthands : Shorthands) : Option (String × String) → Option String
  | none => some ""
  | some ("", suffix) => some suffix
  | some (handle, suffix) => (shorthands.lookup handle).map (· ++ suffix)

/-- Begins the node at the first token; `goals` come after it. -/
def node? (shorthands : Shorthands) (block record : Bool) (goals : List Goal) (b : Builder) :
    Option Builder :=
  match b.tokens with
  | .alias name :: rest => some ({ b with tokens := rest }.emit (.alias name) goals)
  | _ =>
    let (anchor, written, tokens) := properties b.tokens
    (tagText? shorthands written).bind fun tag =>
    match tokens with
    | .entry :: _ =>
      if record then some ({ b with tokens }.emit (.openList anchor tag) (.recordItem :: goals))
      else if anchor.isSome ∨ written.isSome then
        some ({ b with tokens }.emit (.scalar anchor tag .plain "") goals)
      else none
    | .scalar style text :: rest =>
      let tag := if tag = "!" then "" else tag
      some ({ b with tokens := rest }.emit (.scalar anchor tag style text) goals)
    | .flowList :: rest =>
      some ({ b with tokens := rest }.emit (.openList anchor tag) (.flowItem true :: goals))
    | .flowRecord :: rest =>
      some ({ b with tokens := rest }.emit (.openRecord anchor tag) (.flowKey true :: goals))
    | first :: rest =>
      if block ∧ first = .blockList then
        some ({ b with tokens := rest }.emit (.openList anchor tag) (.blockItem :: goals))
      else if block ∧ first = .blockRecord then
        some ({ b with tokens := rest }.emit (.openRecord anchor tag) (.blockKey :: goals))
      else if anchor.isSome ∨ written.isSome then
        some ({ b with tokens }.emit (.scalar anchor tag .plain "") goals)
      else none
    | [] =>
      if anchor.isSome ∨ written.isSome then
        some ({ b with tokens }.emit (.scalar anchor tag .plain "") goals)
      else none

/-- Goes on behind a token: with a node, or with a missing one if `ends` holds of what follows. -/
def entry (ends : Token → Bool) (node next : Goal) (rest : List Token) (goals : List Goal)
    (b : Builder) : Builder :=
  let b := { b with tokens := rest }
  if rest.head?.any ends then b.emit missing (next :: goals)
  else { b with goals := node :: next :: goals }

/-- Closes a collection with a token. -/
def shut (rest : List Token) (goals : List Goal) (b : Builder) : Builder :=
  { b with tokens := rest }.emit .close goals

def isListEnd (t : Token) : Bool := t = .separator ∨ t = .flowListEnd
def isRecordEnd (t : Token) : Bool := t = .separator ∨ t = .flowRecordEnd

/-- The item of a flow list at the first token, or the end of the list. -/
def flowItem (tokens : List Token) (goals : List Goal) (b : Builder) : Builder :=
  match tokens with
  | .flowListEnd :: rest => b.shut rest goals
  | .key :: rest =>
    { b with tokens := rest }.emit (.openRecord none "") (.pairKey :: .flowItem false :: goals)
  | _ => { b with tokens, goals := .node false false :: .flowItem false :: goals }

def flowKey (tokens : List Token) (goals : List Goal) (b : Builder) : Builder :=
  match tokens with
  | .flowRecordEnd :: rest => b.shut rest goals
  | .key :: rest =>
    b.entry (fun t => t = .value ∨ isRecordEnd t) (.node false false) .flowValue rest goals
  | _ => { b with tokens, goals := .node false false :: .noValue :: goals }

def step (shorthands : Shorthands) (b : Builder) : Option Builder :=
  match b.goals with
  | [] => none
  | goal :: goals =>
    match goal, b.tokens with
    | .node block record, _ => node? shorthands block record goals b
    | .blockItem, .entry :: rest =>
      some (b.entry (fun t => t = .entry ∨ t = .blockEnd) (.node true false) .blockItem rest goals)
    | .blockItem, .blockEnd :: rest => some (b.shut rest goals)
    | .blockItem, _ => none
    | .recordItem, .entry :: rest =>
      some (b.entry (fun t => t = .entry ∨ endsEntry t) (.node true false) .recordItem rest goals)
    | .recordItem, tokens => some (b.shut tokens goals)
    | .blockKey, .key :: rest => some (b.entry endsEntry (.node true true) .blockValue rest goals)
    | .blockKey, .blockEnd :: rest => some (b.shut rest goals)
    | .blockKey, _ => none
    | .blockValue, .value :: rest => some (b.entry endsEntry (.node true true) .blockKey rest goals)
    | .blockValue, _ => some (b.emit missing (.blockKey :: goals))
    | .flowItem true, tokens => some (b.flowItem tokens goals)
    | .flowItem false, .flowListEnd :: rest => some (b.shut rest goals)
    | .flowItem false, .separator :: rest => some (b.flowItem rest goals)
    | .flowItem false, _ => none
    | .pairKey, first :: rest =>
      if first = .value ∨ isListEnd first then
        some ({ b with tokens := rest }.emit missing (.pairValue :: goals))
      else some { b with goals := .node false false :: .pairValue :: goals }
    | .pairKey, [] => none
    | .pairValue, .value :: rest => some (b.entry isListEnd (.node false false) .pairEnd rest goals)
    | .pairValue, _ => some (b.emit missing (.pairEnd :: goals))
    | .pairEnd, tokens => some (b.shut tokens goals)
    | .flowKey true, tokens => some (b.flowKey tokens goals)
    | .flowKey false, .flowRecordEnd :: rest => some (b.shut rest goals)
    | .flowKey false, .separator :: rest => some (b.flowKey rest goals)
    | .flowKey false, _ => none
    | .flowValue, .value :: rest =>
      some (b.entry isRecordEnd (.node false false) (.flowKey false) rest goals)
    | .flowValue, _ => some (b.emit missing (.flowKey false :: goals))
    | .noValue, _ => some (b.emit missing (.flowKey false :: goals))

def run? (shorthands : Shorthands) : Nat → Builder → Option Builder
  | 0, _ => none
  | fuel + 1, b =>
    if b.goals.isEmpty then some b else (b.step shorthands).bind (run? shorthands fuel)

end Builder

namespace Event

/-- The directives in front of a document: at most one version, and no shorthand twice. -/
def directives? : List Token → Bool → Shorthands → Option (Bool × Shorthands × List Token)
  | .version major minor :: rest, seen, shorthands =>
    if seen ∨ major ≠ 1 ∨ (minor ≠ 1 ∧ minor ≠ 2) then none else directives? rest true shorthands
  | .tagShorthand handle expansion :: rest, seen, shorthands =>
    if (shorthands.lookup handle).isSome then none
    else directives? rest seen ((handle, expansion) :: shorthands)
  | tokens, seen, shorthands => some (seen, shorthands, tokens)

/-- Whether a document has no content. -/
def isBare : List Token → Bool
  | [] | .documentStart :: _ | .documentEnd :: _ | .version .. :: _ | .tagShorthand .. :: _ => true
  | _ => false

def content? (shorthands : Shorthands) (tokens : List Token) : Option (List Event × List Token) := do
  let b ← Builder.run? shorthands (8 * tokens.length + 8) ⟨tokens, [.node true false], []⟩
  return (b.events.reverse, b.tokens)

/-- The events of the only document; none if there is no document. -/
def ofTokens? (tokens : List Token) : Option (List Event) := do
  if tokens.isEmpty then return []
  let (seen, shorthands, rest) ← directives? tokens false []
  let marked := match rest with
    | .documentStart :: _ => true
    | _ => false
  if !marked ∧ (seen ∨ !shorthands.isEmpty) then none
  else
    let rest := if marked then rest.drop 1 else rest
    let (events, rest) ←
      if marked ∧ isBare rest then some ([Builder.missing], rest)
      else content? (shorthands ++ Shorthands.standard) rest
    if rest.all (· = .documentEnd) then return events else none

end Event
end ApiAtlas.Yaml
