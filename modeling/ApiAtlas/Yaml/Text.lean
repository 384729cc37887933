import ApiAtlas.Tree

/-!
Texts as YAML scalars. A text stands plain if it reads back as a text, and in a style that can hold it
otherwise: in single quotes, as a literal block if it has several lines, or in double quotes with
escapes. Lines are never folded.
-/
namespace ApiAtlas.Yaml

/-- A stretch of a document and whether it ends at the beginning of a line. -/
structure Stretch where
  text : String
  fresh : Bool := false
deriving Inhabited

def blanks (n : Nat) : String := String.ofList (List.replicate n ' ')

namespace Text

def isBreak (c : Char) : Bool :=
  c = '\n' ∨ c = '\r' ∨ c = '\u0085' ∨ c = '\u2028' ∨ c = '\u2029'

def isPrintable (c : Char) : Bool :=
  let n := c.toNat
  c = '\n' ∨ (0x20 ≤ n ∧ n ≤ 0x7E) ∨ (0xA0 ≤ n ∧ n ≠ 0xFEFF ∧ n ≠ 0xFFFE ∧ n ≠ 0xFFFF)

def isGap : Option Char → Bool
  | none => true
  | some c => c = ' ' ∨ c = '\t' ∨ c = '\x00' ∨ isBreak c

/-- Whether two neighbours have some properties. -/
def neighbours (p q : Char → Bool) : List Char → Bool
  | a :: b :: rest => (p a && q b) || neighbours p q (b :: rest)
  | _ => false

/-- Whether a text ends a key somewhere, or begins a comment behind a blank. -/
def marksInside : List Char → Bool
  | [] => false
  | c :: rest =>
    (c = ':' && isGap rest.head?) || (isGap (some c) && rest.head? == some '#') || marksInside rest

/-- Whether a text begins like something else than a scalar. -/
def marksFront (cs : List Char) : Bool :=
  ['-', '-', '-'].isPrefixOf cs || ['.', '.', '.'].isPrefixOf cs
  || match cs with
    | [] => false
    | c :: rest =>
      "#,[]\x7b\x7d&*!|>'\"%@`".toList.contains c || ((c = '?' || c = '-') && isGap rest.head?)

/-- Whether a text is one line without anything that has a meaning of its own. -/
def standsPlain (cs : List Char) : Bool :=
  cs.all (fun c => isPrintable c && !isBreak c) && !marksFront cs && !marksInside cs
  && cs.head? != some ' ' && cs.getLast? != some ' '

def isSpace (c : Char) : Bool := c = ' '

/-- Whether single quotes can hold a text. -/
def fitsQuotes (cs : List Char) : Bool :=
  cs.all isPrintable && !neighbours isBreak isSpace cs && !neighbours isSpace isBreak cs

/-- Whether a literal block can hold a text. -/
def fitsBlock (cs : List Char) : Bool :=
  cs.all isPrintable && !neighbours isSpace isBreak cs && cs.getLast? != some ' '

/-- Whether a plain scalar of these characters is read as a text. -/
def readsBack (s : String) : Bool :=
  match Scalar.ofPlain s with
  | .str _ => !Scalar.isPadded s.toList
  | _ => false

inductive Form where
  | plain | single | double | literal
deriving DecidableEq, Repr

/-- The form of a text. A literal block needs lines of its own, which a key beside its value has not. -/
def formOf (s : String) : Form :=
  let cs := s.toList
  if cs.contains '\n' then (if fitsBlock cs then .literal else .double)
  else if readsBack s && standsPlain cs then .plain
  else if fitsQuotes cs then .single else .double

def escapeName (c : Char) : Option Char :=
  [('\x00', '0'), ('\x07', 'a'), ('\x08', 'b'), ('\t', 't'), ('\n', 'n'), ('\x0b', 'v'),
    ('\x0c', 'f'), ('\r', 'r'), ('\x1b', 'e'), ('"', '"'), ('\\', '\\'), ('\u0085', 'N'),
    ('\u00a0', '_'), ('\u2028', 'L'), ('\u2029', 'P')].lookup c

def hexDigits : Nat → Nat → List Char
  | 0, _ => []
  | width + 1, n => hexDigits width (n / 16) ++ [(Nat.digitChar (n % 16)).toUpper]

def escape (c : Char) : String :=
  if isPrintable c && !isBreak c && c != '"' && c != '\\' then c.toString
  else match escapeName c with
    | some name => "\\" ++ name.toString
    | none =>
      let n := c.toNat
      if n ≤ 0xFF then "\\x" ++ String.ofList (hexDigits 2 n)
      else if n ≤ 0xFFFF then "\\u" ++ String.ofList (hexDigits 4 n)
      else "\\U" ++ String.ofList (hexDigits 8 n)

/-- Lines, each begun with a margin; `front` says whether the next character begins one. -/
def withMargin (margin : String) (write : Char → String) : Bool → List Char → String
  | _, [] => ""
  | front, c :: rest =>
    if isBreak c then c.toString ++ withMargin margin write true rest
    else (if front then margin else "") ++ write c ++ withMargin margin write false rest

def endsInBreak (cs : List Char) : Bool := (cs.getLast?.map isBreak).getD false

/-- What a literal block says of its first line and of its end. -/
def blockHints (cs : List Char) : String :=
  (if (cs.head?.map fun c => isSpace c || isBreak c).getD false then "2" else "")
  ++ match cs.reverse with
    | [] => "-"
    | last :: before =>
      if !isBreak last then "-"
      else if (before.head?.map isBreak).getD true then "+" else ""

def write (indent : Nat) (s : String) : Stretch :=
  let cs := s.toList
  let margin := blanks (indent + 2)
  match formOf s with
  | .plain => ⟨s, false⟩
  | .double => ⟨"\"" ++ String.join (cs.map escape) ++ "\"", false⟩
  | .single =>
    let quoted := withMargin margin (fun c => if c = '\'' then "''" else c.toString) false cs
    ⟨"'" ++ quoted ++ (if endsInBreak cs then margin else "") ++ "'", false⟩
  | .literal =>
    ⟨"|" ++ blockHints cs ++ "\n" ++ withMargin margin Char.toString true cs, endsInBreak cs⟩

example : (write 0 "a: b").text = "'a: b'" ∧ (write 0 "x\ny\n").text = "|\n  x\n  y\n" := by
  decide

end Text
end ApiAtlas.Yaml
