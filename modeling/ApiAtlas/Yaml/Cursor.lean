/-!
A place in a YAML text: the characters still to be read and where they stand. Columns count
characters from the last line break; there are five line breaks, one of which may be two characters.
-/
namespace ApiAtlas.Yaml

def isBreak (c : Char) : Bool :=
  c = '\n' ∨ c = '\r' ∨ c = '\u0085' ∨ c = '\u2028' ∨ c = '\u2029'

def isGap (c : Char) : Bool := c = ' ' ∨ c = '\t'

def isNameChar (c : Char) : Bool := c.isAlphanum ∨ c = '_' ∨ c = '-'

def endsLine : List Char → Bool
  | [] => true
  | c :: _ => isBreak c

def endsWord : List Char → Bool
  | [] => true
  | c :: _ => isGap c || isBreak c

def headIs (p : Char → Bool) : List Char → Bool
  | [] => false
  | c :: _ => p c

structure Cursor where
  rest : List Char
  index : Nat := 0
  line : Nat := 0
  column : Nat := 0

namespace Cursor

/-- Over a number of characters on one line. -/
def advance (n : Nat) (c : Cursor) : Cursor :=
  ⟨c.rest.drop n, c.index + n, c.line, c.column + n⟩

def skipWhile (p : Char → Bool) (c : Cursor) : Cursor :=
  let n := (c.rest.takeWhile p).length
  ⟨c.rest.drop n, c.index + n, c.line, c.column + n⟩

def nextLine (c : Cursor) : Cursor :=
  match c.rest with
  | '\r' :: '\n' :: rest => ⟨rest, c.index + 2, c.line + 1, 0⟩
  | b :: rest => if isBreak b then ⟨rest, c.index + 1, c.line + 1, 0⟩ else c
  | [] => c

/-- What a line break adds to a text. -/
def breakText (c : Cursor) : List Char :=
  match c.rest with
  | b :: _ => if b = '\u2028' ∨ b = '\u2029' then [b] else if isBreak b then ['\n'] else []
  | [] => []

/-- Over blanks and a comment, to the end of the line; nothing else may stand there. -/
def endLine? (c : Cursor) : Option Cursor :=
  let c := c.skipWhile isGap
  let c := if headIs (· = '#') c.rest then c.skipWhile (!isBreak ·) else c
  if endsLine c.rest then some c.nextLine else none

/-- Whether one of the two marks between documents stands here. -/
def atMark (mark : Char) (c : Cursor) : Bool :=
  match c.column, c.rest with
  | 0, a :: b :: d :: rest => a = mark ∧ b = mark ∧ d = mark ∧ endsWord rest
  | _, _ => false

def atDocumentMark (c : Cursor) : Bool := c.atMark '-' || c.atMark '.'

end Cursor
end ApiAtlas.Yaml
