import ApiAtlas.Yaml.Scalar

/-!
Tokens of YAML texts. Beginnings and ends of block collections are tokens too: they follow from the
columns in which entries stand. What is a key is known only at the colon behind it, so a place where
a key may have begun is remembered (`Candidate`), and the token `key` is put there later.
-/
namespace ApiAtlas.Yaml

inductive Token where
  | version (major minor : Nat)
  | tagShorthand (handle expansion : String)
  | documentStart | documentEnd
  | blockList | blockRecord | blockEnd
  | flowList | flowListEnd | flowRecord | flowRecordEnd
  | entry | separator | key | value
  | alias (name : String)
  | anchor (name : String)
  | tag (handle suffix : String)
  | scalar (style : Style) (text : String)
deriving DecidableEq, Repr, Inhabited

/-- A place where a key may have begun. A key that is required must be found. -/
structure Candidate where
  required : Bool
  /-- The number of tokens in front of it. -/
  position : Nat
  index : Nat
  line : Nat
  column : Nat

structure Lexer where
  cursor : Cursor
  /-- The tokens so far, the last one first, and their number. -/
  tokens : List Token := []
  count : Nat := 0
  /-- One place for each open flow collection, the innermost first, and one for the block. -/
  candidates : List (Option Candidate) := [none]
  indent : Int := -1
  outer : List Int := []
  /-- Whether a key may begin here. -/
  keyAllowed : Bool := true

namespace Lexer

def inFlow (l : Lexer) : Bool := 1 < l.candidates.length

def push (t : Token) (l : Lexer) : Lexer := { l with tokens := t :: l.tokens, count := l.count + 1 }

def insert (position : Nat) (t : Token) (l : Lexer) : Lexer :=
  let later := l.count - position
  { l with tokens := l.tokens.take later ++ t :: l.tokens.drop later, count := l.count + 1 }

def skip (n : Nat) (l : Lexer) : Lexer := { l with cursor := l.cursor.advance n }

def allowKey (b : Bool) (l : Lexer) : Lexer := { l with keyAllowed := b }

/-- Opens a block collection if the column lies further in; its token goes to a position. -/
def indentTo (column position : Nat) (t : Token) (l : Lexer) : Lexer :=
  if l.inFlow ∨ (column : Int) ≤ l.indent then l
  else { l.insert position t with indent := column, outer := l.indent :: l.outer }

/-- The block collections that end at a column, given the enclosing indentations. -/
def closing (column : Int) : Int → List Int → Nat × Int × List Int
  | indent, [] => (0, indent, [])
  | indent, i :: outer =>
    if column < indent then
      let (n, rest) := closing column i outer
      (n + 1, rest)
    else (0, indent, i :: outer)

/-- Closes the block collections that lie further in than a column. -/
def dedentTo (column : Int) (l : Lexer) : Lexer :=
  if l.inFlow then l
  else
    let (n, indent, outer) := closing column l.indent l.outer
    { l with
      indent, outer, tokens := List.replicate n .blockEnd ++ l.tokens, count := l.count + n }

def dropCandidate? (l : Lexer) : Option Lexer :=
  match l.candidates with
  | some k :: rest => if k.required then none else some { l with candidates := none :: rest }
  | _ => some l

def saveCandidate? (l : Lexer) : Option Lexer :=
  if l.keyAllowed then do
    let c := l.cursor
    let k : Candidate :=
      ⟨!l.inFlow && l.indent = c.column, l.count, c.index, c.line, c.column⟩
    let l ← l.dropCandidate?
    return { l with candidates := some k :: l.candidates.drop 1 }
  else some l

/-- A key ends on the line where it begins, within 1024 characters. -/
def isStale (c : Cursor) (k : Candidate) : Bool := k.line < c.line ∨ k.index + 1024 < c.index

def dropStale? (l : Lexer) : Option Lexer := do
  let candidates ← l.candidates.mapM fun k? => match k? with
    | some k => if isStale l.cursor k then (if k.required then none else some none) else some (some k)
    | none => some none
  return { l with candidates }

/-- Over blanks, comments and line breaks. Tabs count as blanks where no key may begin. -/
def toNext : Nat → Lexer → Lexer
  | 0, l => l
  | fuel + 1, l =>
    let c := l.cursor
    let c := if c.index = 0 ∧ headIs (· = '\ufeff') c.rest then c.advance 1 else c
    let c := c.skipWhile fun b => b = ' ' || (b = '\t' && (l.inFlow || !l.keyAllowed))
    let c := if headIs (· = '#') c.rest then c.skipWhile (!isBreak ·) else c
    if headIs isBreak c.rest then
      toNext fuel { l with cursor := c.nextLine, keyAllowed := l.keyAllowed || !l.inFlow }
    else { l with cursor := c }

/-! Directives. -/

/-- A nonempty row of at most nine digits and what follows. -/
def number? (cs : List Char) : Option (Nat × List Char) :=
  let digits := cs.takeWhile Char.isDigit
  if digits.isEmpty ∨ 9 < digits.length then none
  else some (Scalar.natInBase? 10 digits |>.getD 0, cs.drop digits.length)

def version? (cs : List Char) : Option (Token × List Char) := do
  let (major, rest) ← number? (cs.dropWhile isGap)
  match rest with
  | '.' :: rest => do
    let (minor, rest) ← number? rest
    return (.version major minor, rest)
  | _ => none

/-- The shorthand of a tag at its beginning: `!`, `!!` or `!name!`, or else the first part of a local
tag. -/
def handle? : List Char → Option (List Char × List Char)
  | '!' :: rest =>
    let name := rest.takeWhile isNameChar
    match rest.drop name.length with
    | '!' :: rest => some ('!' :: name ++ ['!'], rest)
    | rest => some ('!' :: name, rest)
  | _ => none

def isTagChar (verbatim : Bool) (c : Char) : Bool :=
  isNameChar c || ";/?:@&=+$.%!~*'()".toList.contains c || (verbatim && ",[]".toList.contains c)

def width? (first : Nat) : Option Nat :=
  if first < 0x80 then some 1 else if first < 0xC0 then none else if first < 0xE0 then some 2
  else if first < 0xF0 then some 3 else if first < 0xF8 then some 4 else none

/-- A byte written as two hexadecimal digits behind a percent sign. -/
def byte? : List Char → Option (Nat × List Char)
  | '%' :: a :: b :: rest => (Scalar.natInBase? 16 [a, b]).map fun n => (n, rest)
  | _ => none

def continuation? : Nat → List Char → Option (List Char × List Char)
  | 0, cs => some ([], cs)
  | n + 1, cs => do
    let (b, rest) ← byte? cs
    if b / 64 ≠ 2 then none
    let (bytes, rest) ← continuation? n rest
    return (Char.ofNat b :: bytes, rest)

def escaped? (cs : List Char) : Option (List Char × List Char) := do
  let (first, rest) ← byte? cs
  let (bytes, rest) ← continuation? ((← width? first) - 1) rest
  return (Char.ofNat first :: bytes, rest)

def tagText? (verbatim : Bool) : Nat → List Char → Option (List Char × List Char)
  | 0, _ => none
  | _, [] => some ([], [])
  | fuel + 1, c :: rest =>
    if !isTagChar verbatim c then some ([], c :: rest)
    else do
      let (new, rest) ← if c = '%' then escaped? (c :: rest) else some ([c], rest)
      let (text, rest) ← tagText? verbatim fuel rest
      return (new ++ text, rest)

def shorthand? (fuel : Nat) (cs : List Char) : Option (Token × List Char) := do
  let (handle, rest) ← handle? (cs.dropWhile isGap)
  if handle ≠ ['!'] ∧ handle.getLast? ≠ some '!' then none
  else if !headIs isGap rest then none
  else do
    let (expansion, rest) ← tagText? true fuel (rest.dropWhile isGap)
    if expansion.isEmpty ∨ !endsWord rest then none
    else return (.tagShorthand (String.ofList handle) (String.ofList expansion), rest)

/-- A directive up to the end of its line. -/
def directive? (fuel : Nat) (l : Lexer) : Option Lexer := do
  let cs := l.cursor.rest.drop 1
  let name := cs.takeWhile isNameChar
  let rest := cs.drop name.length
  if !endsWord rest then none
  let (t, rest) ←
    if name = "YAML".toList then version? rest
    else if name = "TAG".toList then shorthand? fuel rest
    else none
  let cursor ← { l.cursor with rest }.endLine?
  return { l with cursor }.push t

/-! Tags and anchors. -/

/-- A tag: verbatim in angle brackets, a shorthand with a suffix, or local. -/
def tag? (fuel : Nat) (cs : List Char) : Option (Token × List Char) :=
  match cs with
  | '!' :: '<' :: rest => do
    let (text, rest) ← tagText? true fuel rest
    match text, rest with
    | _ :: _, '>' :: rest => some (.tag "" (String.ofList text), rest)
    | _, _ => none
  | _ => do
    let (handle, rest) ← handle? cs
    let (text, rest) ← tagText? false fuel rest
    if 1 < handle.length ∧ handle.getLast? = some '!' then
      if text.isEmpty then none
      else some (.tag (String.ofList handle) (String.ofList text), rest)
    else
      let suffix := String.ofList (handle.drop 1 ++ text)
      some (if suffix = "" then .tag "" "!" else .tag "!" suffix, rest)

def readTag? (fuel : Nat) (l : Lexer) : Option Lexer := do
  let l := (← l.saveCandidate?).allowKey false
  let (t, rest) ← tag? fuel l.cursor.rest
  if endsWord rest ∨ (l.inFlow ∧ headIs (· = ',') rest) then
    let n := l.cursor.rest.length - rest.length
    return (l.skip n).push t
  else none

def readName? (make : String → Token) (l : Lexer) : Option Lexer := do
  let l := (← l.saveCandidate?).allowKey false
  let cs := l.cursor.rest.drop 1
  let name := cs.takeWhile isNameChar
  let rest := cs.drop name.length
  if name.isEmpty ∨ !(endsWord rest || headIs ("?:,]\x7d%@`".toList.contains ·) rest) then none
  else return (l.skip (name.length + 1)).push (make (String.ofList name))

/-! Collections. -/

def openFlow? (t : Token) (l : Lexer) : Option Lexer := do
  let l ← l.saveCandidate?
  return ({ l with candidates := none :: l.candidates }.allowKey true |>.skip 1).push t

def closeFlow? (t : Token) (l : Lexer) : Option Lexer := do
  let l ← l.dropCandidate?
  let candidates := if l.inFlow then l.candidates.drop 1 else l.candidates
  return ({ l with candidates }.allowKey false |>.skip 1).push t

def readSeparator? (l : Lexer) : Option Lexer := do
  return ((← l.dropCandidate?).allowKey true |>.skip 1).push .separator

def readEntry? (l : Lexer) : Option Lexer := do
  if !l.inFlow ∧ !l.keyAllowed then none
  else
    let l := l.indentTo l.cursor.column l.count .blockList
    return ((← l.dropCandidate?).allowKey true |>.skip 1).push .entry

def readKey? (l : Lexer) : Option Lexer := do
  if !l.inFlow ∧ !l.keyAllowed then none
  else
    let l := l.indentTo l.cursor.column l.count .blockRecord
    return ((← l.dropCandidate?).allowKey (!l.inFlow) |>.skip 1).push .key

/-- A colon makes the innermost candidate a key. -/
def readValue? (l : Lexer) : Option Lexer :=
  match l.candidates with
  | some k :: rest =>
    let l := (l.insert k.position .key).indentTo k.column k.position .blockRecord
    some (({ l with candidates := none :: rest }.allowKey false |>.skip 1).push .value)
  | _ =>
    if !l.inFlow ∧ !l.keyAllowed then none
    else
      let l := l.indentTo l.cursor.column l.count .blockRecord
      some ((l.allowKey (!l.inFlow) |>.skip 1).push .value)

def toMargin? (l : Lexer) : Option Lexer := do
  return (← (l.dedentTo (-1)).dropCandidate?).allowKey false

/-! Scalars. -/

def readBlock? (fuel : Nat) (folded : Bool) (l : Lexer) : Option Lexer := do
  let l := (← l.dropCandidate?).allowKey true |>.skip 1
  let (text, cursor) ← Block.scan? folded l.indent fuel l.cursor
  let style := if folded then .quoted else .literal
  return { l with cursor }.push (.scalar style (String.ofList text.reverse))

def readQuoted? (fuel : Nat) (single : Bool) (l : Lexer) : Option Lexer := do
  let l := (← l.saveCandidate?).allowKey false |>.skip 1
  let (text, cursor) ← Quoted.scan? single fuel [] l.cursor
  return { l with cursor }.push (.scalar .quoted (String.ofList text.reverse))

def readPlain? (fuel : Nat) (l : Lexer) : Option Lexer := do
  let l := (← l.saveCandidate?).allowKey false
  let (text, broken, cursor) ← Plain.scan? l.inFlow (l.indent + 1) fuel [] {} l.cursor
  return { l with cursor, keyAllowed := broken }.push (.scalar .plain (String.ofList text.reverse))

/-- Whether a plain scalar may begin here. -/
def startsPlain (flow : Bool) (c : Char) (rest : List Char) : Bool :=
  !(isGap c || "-?:,[]\x7b\x7d#&*!|>'\"%@`".toList.contains c) ||
    (c = '-' && !headIs isGap rest) || (!flow && (c = '?' || c = ':') && !endsWord rest)

/-- The next token; blanks in front of it are gone. -/
def read? (fuel : Nat) (l : Lexer) : Option Lexer :=
  match l.cursor.rest with
  | [] => some l
  | c :: rest =>
    let flow := l.inFlow
    if l.cursor.column = 0 ∧ c = '%' then l.toMargin?.bind (directive? fuel)
    else if l.cursor.atMark '-' then l.toMargin?.map fun l => (l.skip 3).push .documentStart
    else if l.cursor.atMark '.' then l.toMargin?.map fun l => (l.skip 3).push .documentEnd
    else if c = '[' then l.openFlow? .flowList
    else if c = '\x7b' then l.openFlow? .flowRecord
    else if c = ']' then l.closeFlow? .flowListEnd
    else if c = '\x7d' then l.closeFlow? .flowRecordEnd
    else if c = ',' then l.readSeparator?
    else if c = '-' ∧ endsWord rest then l.readEntry?
    else if c = '?' ∧ (flow ∨ endsWord rest) then l.readKey?
    else if c = ':' ∧ (flow ∨ endsWord rest) then l.readValue?
    else if c = '*' then l.readName? .alias
    else if c = '&' then l.readName? .anchor
    else if c = '!' then l.readTag? fuel
    else if c = '|' ∧ !flow then l.readBlock? fuel false
    else if c = '>' ∧ !flow then l.readBlock? fuel true
    else if c = '\'' then l.readQuoted? fuel true
    else if c = '"' then l.readQuoted? fuel false
    else if startsPlain flow c rest then l.readPlain? fuel
    else none

/-- All tokens of a text of at most `size` characters. -/
def run? (size : Nat) : Nat → Lexer → Option (List Token)
  | 0, _ => none
  | fuel + 1, l => do
    let l ← (l.toNext size).dropStale?
    let l := l.dedentTo l.cursor.column
    if l.cursor.rest.isEmpty then
      let l ← l.toMargin?
      return l.tokens.reverse
    else run? size fuel (← l.read? size)

end Lexer

def Token.ofText? (cs : List Char) : Option (List Token) :=
  Lexer.run? (cs.length + 2) (cs.length + 2) { cursor := { rest := cs } }

example : Token.ofText? "a: [b]".toList = some [.blockRecord, .key, .scalar .plain "a", .value,
    .flowList, .scalar .plain "b", .flowListEnd, .blockEnd] := by decide
example : Token.ofText? "a: b: c".toList = none := by decide

end ApiAtlas.Yaml
