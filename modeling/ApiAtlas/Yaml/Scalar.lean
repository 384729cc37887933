import ApiAtlas.Tree
import ApiAtlas.Yaml.Cursor

/-!
The scalars of YAML: plain, quoted and block scalars. Each reader starts at the first character of a
scalar and gives its text and the place behind it. Lines are folded: a single line break between two
pieces is a blank, more of them are one less. Texts grow with the last character first. `fuel` is
never less than the number of characters left, plus two.
-/
namespace ApiAtlas.Yaml

/-- What stands between two pieces of a scalar, each text with the last character first. -/
structure Gap where
  blanks : List Char := []
  first : List Char := []
  others : List Char := []
  /-- Whether a line ended. -/
  broken : Bool := false

namespace Gap

/-- What a gap adds to a text. -/
def text (g : Gap) : List Char :=
  if !g.broken then g.blanks
  else if g.first = ['\n'] then (if g.others.isEmpty then [' '] else g.others)
  else g.others ++ g.first

/-- Extends a gap over blanks and line breaks. Blanks are kept only before the first break. With an
indentation, a tab left of it behind a break is refused. -/
def extend? (indent : Option Int) : Nat → Gap → Cursor → Option (Gap × Cursor)
  | 0, _, _ => none
  | fuel + 1, g, c =>
    match c.rest with
    | [] => some (g, c)
    | b :: _ =>
      if isGap b then
        if g.broken ∧ b = '\t' ∧ indent.any (fun i => (c.column : Int) < i) then none
        else extend? indent fuel (if g.broken then g else { g with blanks := b :: g.blanks }) (c.advance 1)
      else if isBreak b then
        let g := if g.broken then { g with others := c.breakText ++ g.others }
          else { g with broken := true, blanks := [], first := c.breakText }
        extend? indent fuel g c.nextLine
      else some (g, c)

end Gap

namespace Plain

/-- A piece of a plain scalar without blanks, last character first, and what follows. In a flow
collection some characters end it, and a colon in front of one is refused. -/
def piece? (flow : Bool) (text : List Char) : List Char → Option (List Char × List Char)
  | [] => some (text, [])
  | c :: rest =>
    if isGap c || isBreak c then some (text, c :: rest)
    else if flow ∧ c = ':' ∧ headIs (",?[]\x7b\x7d".toList.contains ·) rest then none
    else if (c = ':' ∧ endsWord rest) ∨ (flow ∧ ",[]\x7b\x7d".toList.contains c) then
      some (text, c :: rest)
    else piece? flow (c :: text) rest

/-- The text of a plain scalar, the place behind it and its gap, and whether that gap ends a line. -/
def scan? (flow : Bool) (indent : Int) : Nat → List Char → Gap → Cursor →
    Option (List Char × Bool × Cursor)
  | 0, _, _, _ => none
  | fuel + 1, text, gap, c =>
    if c.atDocumentMark || headIs (· = '#') c.rest then some (text, gap.broken, c)
    else do
      let (new, rest) ← piece? flow [] c.rest
      let (text, gap, c) :=
        if new.isEmpty then (text, gap, c)
        else (new ++ gap.text ++ text, {}, { c.advance new.length with rest })
      if !endsWord c.rest || c.rest.isEmpty then some (text, gap.broken, c)
      else
        let (gap, c) ← gap.extend? (some indent) fuel c
        if !flow ∧ (c.column : Int) < indent then some (text, gap.broken, c)
        else scan? flow indent fuel text gap c

end Plain

namespace Quoted

/-- The character of a short escape. -/
def short? (c : Char) : Option Char :=
  [('0', '\x00'), ('a', '\x07'), ('b', '\x08'), ('t', '\t'), ('\t', '\t'), ('n', '\n'),
    ('v', '\x0b'), ('f', '\x0c'), ('r', '\r'), ('e', '\x1b'), (' ', ' '), ('"', '"'), ('/', '/'),
    ('\\', '\\'), ('N', '\u0085'), ('_', '\u00a0'), ('L', '\u2028'), ('P', '\u2029')].lookup c

def digits? (c : Char) : Option Nat := [('x', 2), ('u', 4), ('U', 8)].lookup c

/-- The character that a row of hexadecimal digits stands for. -/
def char? (digits : List Char) : Option Char :=
  (Scalar.natInBase? 16 digits).bind fun n => if n.isValidChar then some (Char.ofNat n) else none

inductive Ending where
  | closed | gap | escapedBreak

/-- What an escape stands for, given the characters behind the backslash, and how many of them it
takes. -/
def escape? : List Char → Option (Char × Nat)
  | [] => none
  | e :: rest =>
    match short? e, digits? e with
    | some s, _ => some (s, 1)
    | none, some n =>
      let digits := rest.take n
      if digits.length = n then (char? digits).map fun s => (s, n + 1) else none
    | none, none => none

def piece? (single : Bool) : Nat → List Char → Nat → List Char → Option (List Char × Nat × Ending)
  | 0, _, _, _ => none
  | _, text, used, [] => some (text, used, .gap)
  | fuel + 1, text, used, c :: rest =>
    if isGap c || isBreak c then some (text, used, .gap)
    else if single then
      if c = '\'' then
        if headIs (· = '\'') rest then piece? single fuel ('\'' :: text) (used + 2) (rest.drop 1)
        else some (text, used, .closed)
      else piece? single fuel (c :: text) (used + 1) rest
    else if c = '"' then some (text, used, .closed)
    else if c = '\\' then
      if headIs isBreak rest then some (text, used + 1, .escapedBreak)
      else do
        let (s, n) ← escape? rest
        piece? single fuel (s :: text) (used + n + 1) (rest.drop n)
    else piece? single fuel (c :: text) (used + 1) rest

/-- Reads up to and over the closing quote. -/
def scan? (single : Bool) : Nat → List Char → Cursor → Option (List Char × Cursor)
  | 0, _, _ => none
  | fuel + 1, text, c =>
    if c.atDocumentMark || c.rest.isEmpty then none
    else do
      let (text, used, ending) ← piece? single fuel text 0 c.rest
      let c := c.advance used
      match ending with
      | .closed => some (text, c.advance 1)
      | .gap =>
        let (gap, c) ← Gap.extend? none fuel {} c
        scan? single fuel (gap.text ++ text) c
      | .escapedBreak =>
        let c := c.nextLine
        let (gap, c) ← Gap.extend? none fuel { broken := true } c
        scan? single fuel (gap.text ++ text) c

end Quoted

namespace Block

inductive Chomp where
  | strip | clip | keep
deriving DecidableEq

def chomp? (c : Char) : Option Chomp :=
  if c = '+' then some .keep else if c = '-' then some .strip else none

def increment? (c : Char) : Option Nat :=
  if c.isDigit then some (c.toNat - 48) else none

/-- The header behind the indicator: chomping and indentation in any order, and the length. -/
def header (cs : List Char) : Chomp × Option Nat × Nat :=
  let second := (cs.drop 1).head?
  match cs.head?.bind chomp?, cs.head?.bind increment? with
  | some k, _ =>
    match second.bind increment? with
    | some n => (k, some n, 2)
    | none => (k, none, 1)
  | none, some n =>
    match second.bind chomp? with
    | some k => (k, some n, 2)
    | none => (.clip, some n, 1)
  | none, none => (.clip, none, 0)

/-- Over indentation and empty lines. Gives the line breaks, last first, the place, and the largest
column met. Without an indentation, blanks are taken as far as they go. -/
def breaks? (indent : Option Nat) : Nat → Nat → List Char → Cursor → Option (List Char × Nat × Cursor)
  | 0, _, _, _ => none
  | fuel + 1, widest, text, c =>
    let blanks := (c.rest.takeWhile (· = ' ')).length
    let n := match indent with
      | some i => min blanks (i - c.column)
      | none => blanks
    let c := c.advance n
    let widest := max widest c.column
    if headIs (· = '\t') c.rest ∧ indent.all (fun i => c.column < i) then none
    else if !c.rest.isEmpty ∧ endsLine c.rest then
      breaks? indent fuel widest (c.breakText ++ text) c.nextLine
    else some (text, widest, c)

/-- The lines of a block scalar. `leading` is the break of the line before, `trailing` what empty
lines left behind it, and `inset` whether that line began with a blank. -/
def lines? (folded : Bool) (indent : Nat) : Nat → List Char → List Char → List Char → Bool → Cursor →
    Option (List Char × List Char × List Char × Cursor)
  | 0, _, _, _, _, _ => none
  | fuel + 1, text, leading, trailing, inset, c =>
    if c.column ≠ indent ∨ c.rest.isEmpty then some (text, leading, trailing, c)
    else do
      let blank := headIs isGap c.rest
      let joined :=
        if folded ∧ leading = ['\n'] ∧ !inset ∧ !blank then (if trailing.isEmpty then [' '] else [])
        else leading
      let line := c.rest.takeWhile (!isBreak ·)
      let text := line.reverse ++ trailing ++ joined ++ text
      let c := c.advance line.length
      let leading := c.breakText
      let (trailing, _, c) ← breaks? (some indent) fuel 0 [] c.nextLine
      lines? folded indent fuel text leading trailing blank c

/-- A block scalar behind its indicator, in a collection that is indented by `outer`. -/
def scan? (folded : Bool) (outer : Int) (fuel : Nat) (c : Cursor) : Option (List Char × Cursor) := do
  let (chomp, increment, length) := header c.rest
  if increment = some 0 then none
  else
    let c ← (c.advance length).endLine?
    let given := increment.map fun n => (max outer 0).toNat + n
    let (trailing, widest, c) ← breaks? given fuel 0 [] c
    let indent := given.getD (max widest (max (outer + 1) 1).toNat)
    let (text, leading, trailing, c) ← lines? folded indent fuel [] [] trailing false c
    let text := if chomp = .strip then text else leading ++ text
    return (if chomp = .keep then trailing ++ text else text, c)

end Block
end ApiAtlas.Yaml
