import ApiAtlas.Pattern.Syntax

/-!
Where an expression matches. A set of places of a text is a number whose binary digit `i` stands for
the place before character `i`. `ends` takes the places where a match may start to all places where
one can end; so an expression occurs in a text if and only if the ends of all places are not empty.
No order of preference between matches is kept.
-/
namespace ApiAtlas.Pattern

/-- The number whose binary digits are given, the lowest first. -/
def ofBits : List Bool → Nat
  | [] => 0
  | b :: rest => (if b then 1 else 0) + 2 * ofBits rest

namespace Look

/-- Whether a condition holds between two characters, either of which may be missing at an end of
the text. -/
def holds (l : Look) (before after : Option Char) : Bool :=
  let isWord (ascii : Bool) (c : Option Char) : Bool :=
    c.any fun c => if ascii then Classes.asciiWord.contains c else Classes.word.contains c
  match l with
  | .textStart => before.isNone
  | .textEnd => after.isNone
  | .lineStart => before.all (· == '\n')
  | .lineEnd => after.all (· == '\n')
  | .lineStartAny => before.all fun c => c == '\n' || (c == '\r' && after != some '\n')
  | .lineEndAny => after.all fun c => c == '\r' || (c == '\n' && before != some '\r')
  | .boundary a => isWord a before != isWord a after
  | .notBoundary a => isWord a before == isWord a after
  | .wordStart a => !isWord a before && isWord a after
  | .wordEnd a => isWord a before && !isWord a after
  | .wordStartHalf a => !isWord a before
  | .wordEndHalf a => !isWord a after

end Look

/-- The places of a text with the characters before and behind each. -/
def places : Option Char → List Char → List (Option Char × Option Char)
  | before, [] => [(before, none)]
  | before, c :: rest => (before, some c) :: places (some c) rest

namespace Regex

/-- The tests and conditions of an expression turned into the sets of places where they hold. -/
def onText (text : List Char) : Expression → Regex Nat Nat
  | .empty => .empty
  | .one set => .one (ofBits (text.map set.contains))
  | .look l => .look (ofBits ((places none text).map fun p => l.holds p.1 p.2))
  | .seq a b => .seq (onText text a) (onText text b)
  | .alt a b => .alt (onText text a) (onText text b)
  | .repeated r least most => .repeated (onText text r) least most
  | .group name r => .group name (onText text r)

/-- Applies a step a number of times, not after it changes nothing. -/
def times (step : Nat → Nat) : Nat → Nat → Nat
  | 0, starts => starts
  | n + 1, starts =>
    let next := step starts
    if next = starts then starts else times step n next

/-- Adds what a step reaches, up to a number of times, not after nothing new is found. -/
def upTo (step : Nat → Nat) : Nat → Nat → Nat
  | 0, starts => starts
  | n + 1, starts =>
    let more := starts ||| step starts
    if more = starts then starts else upTo step n more

/-- The places where a match can end that starts at one of the given places. `length` is the number
of places, which bounds how often a repetition finds a new one. -/
def ends (length : Nat) : Regex Nat Nat → Nat → Nat
  | .empty, starts => starts
  | .one test, starts => (starts &&& test) <<< 1
  | .look condition, starts => starts &&& condition
  | .seq a b, starts => ends length b (ends length a starts)
  | .alt a b, starts => ends length a starts ||| ends length b starts
  | .repeated r least most, starts =>
    let more := match most with
      | some m => min (m - least) length
      | none => length
    upTo (ends length r) more (times (ends length r) least starts)
  | .group _ r, starts => ends length r starts

/-- Whether an expression occurs in a text. -/
def occursIn (r : Expression) (text : List Char) : Bool :=
  let length := text.length + 1
  ends length (onText text r) (Nat.pow 2 length - 1) != 0

/-- Whether every match of an expression is empty. -/
def matchesOnlyEmpty : Regex α β → Bool
  | .empty | .look _ => true
  | .one _ => false
  | .seq a b | .alt a b => a.matchesOnlyEmpty && b.matchesOnlyEmpty
  | .repeated r _ most => r.matchesOnlyEmpty || most == some 0
  | .group _ r => r.matchesOnlyEmpty

end Regex

/-- The number of byte sequences that encode the characters of a range: it is cut where the length of
the encoding changes and where a trailing byte does not run through all its values. -/
def sequences : Nat → Nat → Nat → Nat
  | 0, _, _ => 1
  | fuel + 1, low, high =>
    if high < low then 0
    else if low ≤ 0x7F ∧ 0x7F < high then 1 + sequences fuel 0x80 high
    else if low ≤ 0x7FF ∧ 0x7FF < high then sequences fuel low 0x7FF + sequences fuel 0x800 high
    else if low ≤ 0xFFFF ∧ 0xFFFF < high then sequences fuel low 0xFFFF + sequences fuel 0x10000 high
    else if high ≤ 0x7F then 1
    else
      match [64, 4096, 262144].find? fun block =>
        low / block ≠ high / block ∧ (low % block ≠ 0 ∨ high % block ≠ block - 1) with
      | some block =>
        if low % block ≠ 0 then
          let cut := (low / block + 1) * block
          sequences fuel low (cut - 1) + sequences fuel cut high
        else
          let cut := high / block * block
          sequences fuel low (cut - 1) + sequences fuel cut high
      | none => 1

/-- The bytes that a set takes in a compiled expression: more for each sequence of bytes if it goes
beyond ASCII. -/
def setSize (set : Ranges) : Nat :=
  if set.all fun r => r.2 ≤ 0x7F then
    (if set.length = 1 then 32 else 64 + 8 * set.length)
  else 64 + 52 * set.foldl (fun n r => n + sequences 32 r.1 r.2) 0

/-- The bytes that an expression takes when compiled, repetitions written out. -/
def compiledSize : Expression → Nat
  | .empty => 32
  | .one set => setSize set
  | .look _ => 32
  | .seq a b => compiledSize a + compiledSize b
  | .alt a b => compiledSize a + compiledSize b + 40
  | .repeated r least most =>
    let size := compiledSize r
    if r.matchesOnlyEmpty then size
    else match most with
      | none => max least 1 * size + 64
      | some m => least * size + (m - least) * (size + 40) + 32
  | .group _ r => compiledSize r + 64

/-- A compiled expression may take this many bytes. -/
def sizeLimit : Nat := 10 * Nat.pow 2 20

/-- The expression of a pattern, unless it cannot be read or is too large. -/
def compile? (source : String) : Option Expression :=
  (parse? source).bind fun r => if compiledSize r ≤ sizeLimit then some r else none

def isValid (source : String) : Bool := (compile? source).isSome

/-- Whether a pattern occurs in a text. A pattern that is no expression occurs in every text. -/
def accepts (source text : String) : Bool :=
  match compile? source with
  | some r => r.occursIn text.toList
  | none => true

end ApiAtlas.Pattern
