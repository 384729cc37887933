/-!
Tokens of graph queries. Blanks, commas, byte order marks and comments stand between tokens and are
ignored. `Token.ofText` always gives the tokens in front of the first place that starts none, and
how the text ends there: at its end, or with the reason why no token can be read.
-/
namespace ApiAtlas.Graph

inductive LexProblem where
  | loneDot
  | unexpected (c : Char)
  | noDigit | noFraction | noExponent
  | openString | openBlockString
deriving DecidableEq, Repr

namespace LexProblem

def message : LexProblem → String
  | .loneDot => "unexpected '.', did you mean '...'?"
  | .unexpected c => "unexpected character '" ++ c.toString ++ "'"
  | .noDigit => "expected a digit"
  | .noFraction => "expected a digit after '.'"
  | .noExponent => "expected a digit in exponent"
  | .openString => "unterminated string"
  | .openBlockString => "unterminated block string"

end LexProblem

inductive TokenKind where
  | punct (c : Char)
  | spread | name | int | float | string
deriving DecidableEq, Repr

/-- A token with its place: offsets count characters. -/
structure Token where
  kind : TokenKind
  start : Nat
  text : String
deriving DecidableEq, Repr

inductive Ending where
  | complete (offset : Nat)
  | broken (problem : LexProblem) (offset : Nat)
deriving DecidableEq, Repr

namespace Token

/-- The offset behind a token. -/
def stop (t : Token) : Nat := t.start + t.text.length

def isNameStart (c : Char) : Bool := c.isAlpha || c = '_'
def isNameRest (c : Char) : Bool := c.isAlphanum || c = '_'

def isPunct (c : Char) : Bool := "!$&():=@[]\x7b|\x7d".toList.contains c

def isIgnored (c : Char) : Bool :=
  c = ' ' ∨ c = '\t' ∨ c = '\n' ∨ c = '\r' ∨ c = ',' ∨ c = '\ufeff'

/-- The number of ignored characters at the beginning of a text. A comment reaches to the end of its
line. -/
def ignored (inComment : Bool) : List Char → Nat
  | [] => 0
  | c :: rest =>
    if inComment then 1 + ignored (c ≠ '\n') rest
    else if isIgnored c then 1 + ignored false rest
    else if c = '#' then 1 + ignored true rest
    else 0

/-- What reading one token gives: its kind and length, or a problem and how far in it lies. -/
abbrev Scan := Except (LexProblem × Nat) (TokenKind × Nat)

/-- The number of digits at the beginning. -/
def digits (cs : List Char) : Nat := (cs.takeWhile Char.isDigit).length

/-- Extends a number of length `n` by an exponent. -/
def exponent (kind : TokenKind) (n : Nat) (cs : List Char) : Scan :=
  match cs with
  | e :: rest =>
    if e = 'e' ∨ e = 'E' then
      let sign := if rest.head? = some '+' ∨ rest.head? = some '-' then 1 else 0
      let k := digits (rest.drop sign)
      if k = 0 then .error (.noExponent, n + 1 + sign) else .ok (.float, n + 1 + sign + k)
    else .ok (kind, n)
  | [] => .ok (kind, n)

def number (cs : List Char) : Scan :=
  let sign := if cs.head? = some '-' then 1 else 0
  let whole := digits (cs.drop sign)
  if whole = 0 then .error (.noDigit, 0)
  else
    let n := sign + whole
    match cs.drop n with
    | '.' :: rest =>
      let k := digits rest
      if k = 0 then .error (.noFraction, n + 1) else exponent .float (n + 1 + k) (rest.drop k)
    | rest => exponent .int n rest

/-- The length of a string behind its opening quote, the closing one included. -/
def stringLength? : List Char → Option Nat
  | [] => none
  | '"' :: _ => some 1
  | '\\' :: _ :: rest => (stringLength? rest).map (· + 2)
  | c :: rest => if c = '\n' ∨ c = '\r' then none else (stringLength? rest).map (· + 1)

/-- The length of a block string behind its opening quotes, the closing ones included. -/
def blockLength? : List Char → Option Nat
  | [] => none
  | '\\' :: '"' :: '"' :: '"' :: rest => (blockLength? rest).map (· + 4)
  | '"' :: '"' :: '"' :: _ => some 3
  | _ :: rest => (blockLength? rest).map (· + 1)

def string (cs : List Char) : Scan :=
  match cs with
  | '"' :: '"' :: '"' :: rest =>
    match blockLength? rest with
    | some n => .ok (.string, n + 3)
    | none => .error (.openBlockString, 0)
  | _ =>
    match stringLength? (cs.drop 1) with
    | some n => .ok (.string, n + 1)
    | none => .error (.openString, 0)

/-- The token at the beginning of a text. -/
def scan (c : Char) (rest : List Char) : Scan :=
  if isPunct c then .ok (.punct c, 1)
  else if c = '.' then
    if ['.', '.'].isPrefixOf rest then .ok (.spread, 3) else .error (.loneDot, 0)
  else if isNameStart c then .ok (.name, 1 + (rest.takeWhile isNameRest).length)
  else if c = '-' ∨ c.isDigit then number (c :: rest)
  else if c = '"' then string (c :: rest)
  else .error (.unexpected c, 0)

/-- The tokens of a text that begins at an offset. Every token takes a character, so the fuel need not
exceed their number. -/
def all : Nat → Nat → List Char → List Token × Ending
  | 0, offset, _ => ([], .complete offset)
  | fuel + 1, offset, cs =>
    let skipped := ignored false cs
    let start := offset + skipped
    match cs.drop skipped with
    | [] => ([], .complete start)
    | c :: rest =>
      match scan c rest with
      | .error (problem, k) => ([], .broken problem (start + k))
      | .ok (kind, n) =>
        let (tokens, ending) := all fuel (start + n) ((c :: rest).drop n)
        (⟨kind, start, String.ofList ((c :: rest).take n)⟩ :: tokens, ending)

def ofText (text : List Char) : List Token × Ending := all (text.length + 1) 0 text

example : ofText "{ a(x: 1.5) }".toList =
    ([⟨.punct '\x7b', 0, "\x7b"⟩, ⟨.name, 2, "a"⟩, ⟨.punct '(', 3, "("⟩, ⟨.name, 4, "x"⟩,
      ⟨.punct ':', 5, ":"⟩, ⟨.float, 7, "1.5"⟩, ⟨.punct ')', 10, ")"⟩, ⟨.punct '\x7d', 12, "\x7d"⟩],
      .complete 13) := by decide

end Token
end ApiAtlas.Graph
