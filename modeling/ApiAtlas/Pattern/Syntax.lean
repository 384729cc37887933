import ApiAtlas.Text.Case
import ApiAtlas.Text.Script

/-!
Regular expressions and their written form. An expression is over tests for one character, which are
sets of characters as parsed. `parse?` fails on everything that is no expression, back-references and
look-around included, and on expressions nested deeper than `nestLimit`.
-/
namespace ApiAtlas.Pattern

/-- A condition on a place between two characters. -/
inductive Look where
  | textStart | textEnd
  | lineStart | lineEnd
  | lineStartAny | lineEndAny
  | boundary (ascii : Bool) | notBoundary (ascii : Bool)
  | wordStart (ascii : Bool) | wordEnd (ascii : Bool)
  | wordStartHalf (ascii : Bool) | wordEndHalf (ascii : Bool)
deriving DecidableEq, Repr

/-- Expressions over tests `α` for one character and conditions `β` on a place. -/
inductive Regex (α β : Type) where
  | empty
  | one (test : α)
  | look (condition : β)
  | seq (a b : Regex α β)
  | alt (a b : Regex α β)
  | repeated (r : Regex α β) (least : Nat) (most : Option Nat)
  | group (name : Option String) (r : Regex α β)

abbrev Expression := Regex Ranges Look

/-- What has been switched on at a place of the text. -/
structure Flags where
  ignoreCase : Bool := false
  multiLine : Bool := false
  dotAll : Bool := false
  swapGreed : Bool := false
  unicode : Bool := true
  anyLineEnd : Bool := false
  verbose : Bool := false
deriving DecidableEq, Repr

/-- Groups, repetitions and classes nest at most this deep. -/
def nestLimit : Nat := 250

namespace Classes

/-- The characters of words. -/
def word : Ranges := Ranges.normalize (Property.alphabetic ++ Category.mn ++ Category.mc ++
  Category.me ++ Category.nd ++ Category.pc ++ Property.joinControl)

def asciiWord : Ranges := [(0x30, 0x39), (0x41, 0x5A), (0x5F, 0x5F), (0x61, 0x7A)]
def asciiDigit : Ranges := [(0x30, 0x39)]
def asciiSpace : Ranges := [(0x09, 0x0D), (0x20, 0x20)]

/-- The classes that are named inside brackets. -/
def bracketed? (name : String) : Option Ranges :=
  match name with
  | "alnum" => some [(0x30, 0x39), (0x41, 0x5A), (0x61, 0x7A)]
  | "alpha" => some [(0x41, 0x5A), (0x61, 0x7A)]
  | "ascii" => some [(0x00, 0x7F)]
  | "blank" => some [(0x09, 0x09), (0x20, 0x20)]
  | "cntrl" => some [(0x00, 0x1F), (0x7F, 0x7F)]
  | "digit" => some asciiDigit
  | "graph" => some [(0x21, 0x7E)]
  | "lower" => some [(0x61, 0x7A)]
  | "print" => some [(0x20, 0x7E)]
  | "punct" => some [(0x21, 0x2F), (0x3A, 0x40), (0x5B, 0x60), (0x7B, 0x7E)]
  | "space" => some asciiSpace
  | "upper" => some [(0x41, 0x5A)]
  | "word" => some asciiWord
  | "xdigit" => some [(0x30, 0x39), (0x41, 0x46), (0x61, 0x66)]
  | _ => none

/-- A name in lower case without blanks, underscores and hyphens; a leading "is" does not count. -/
def normalName (name : String) : String :=
  let plain (cs : List Char) : List Char :=
    (cs.filter fun c => c.toNat < 128 && c != ' ' && c != '_' && c != '-').map Char.toLower
  let cs := name.toList
  if plain (cs.take 2) = ['i', 's'] then
    let rest := plain (cs.drop 2)
    if rest = ['c'] then "isc" else String.ofList rest
  else String.ofList (plain cs)

/-- The letters of the categories that a name stands for. -/
def categoryGroups : List (String × List String) := [
  ("l", ["Lu", "Ll", "Lt", "Lm", "Lo"]), ("letter", ["Lu", "Ll", "Lt", "Lm", "Lo"]),
  ("lc", ["Lu", "Ll", "Lt"]), ("casedletter", ["Lu", "Ll", "Lt"]),
  ("m", ["Mn", "Mc", "Me"]), ("mark", ["Mn", "Mc", "Me"]), ("combiningmark", ["Mn", "Mc", "Me"]),
  ("n", ["Nd", "Nl", "No"]), ("number", ["Nd", "Nl", "No"]),
  ("p", ["Pc", "Pd", "Ps", "Pe", "Pi", "Pf", "Po"]),
  ("punctuation", ["Pc", "Pd", "Ps", "Pe", "Pi", "Pf", "Po"]),
  ("punct", ["Pc", "Pd", "Ps", "Pe", "Pi", "Pf", "Po"]),
  ("s", ["Sm", "Sc", "Sk", "So"]), ("symbol", ["Sm", "Sc", "Sk", "So"]),
  ("z", ["Zs", "Zl", "Zp"]), ("separator", ["Zs", "Zl", "Zp"]),
  ("lu", ["Lu"]), ("uppercaseletter", ["Lu"]), ("ll", ["Ll"]), ("lowercaseletter", ["Ll"]),
  ("lt", ["Lt"]), ("titlecaseletter", ["Lt"]), ("lm", ["Lm"]), ("modifierletter", ["Lm"]),
  ("lo", ["Lo"]), ("otherletter", ["Lo"]), ("mn", ["Mn"]), ("nonspacingmark", ["Mn"]),
  ("mc", ["Mc"]), ("spacingmark", ["Mc"]), ("me", ["Me"]), ("enclosingmark", ["Me"]),
  ("nd", ["Nd"]), ("decimalnumber", ["Nd"]), ("digit", ["Nd"]), ("nl", ["Nl"]),
  ("letternumber", ["Nl"]), ("no", ["No"]), ("othernumber", ["No"]), ("pc", ["Pc"]),
  ("connectorpunctuation", ["Pc"]), ("pd", ["Pd"]), ("dashpunctuation", ["Pd"]), ("ps", ["Ps"]),
  ("openpunctuation", ["Ps"]), ("pe", ["Pe"]), ("closepunctuation", ["Pe"]), ("pi", ["Pi"]),
  ("initialpunctuation", ["Pi"]), ("pf", ["Pf"]), ("finalpunctuation", ["Pf"]), ("po", ["Po"]),
  ("otherpunctuation", ["Po"]), ("sm", ["Sm"]), ("mathsymbol", ["Sm"]), ("sc", ["Sc"]),
  ("currencysymbol", ["Sc"]), ("sk", ["Sk"]), ("modifiersymbol", ["Sk"]), ("so", ["So"]),
  ("othersymbol", ["So"]), ("zs", ["Zs"]), ("spaceseparator", ["Zs"]), ("zl", ["Zl"]),
  ("lineseparator", ["Zl"]), ("zp", ["Zp"]), ("paragraphseparator", ["Zp"]), ("cc", ["Cc"]),
  ("control", ["Cc"]), ("cntrl", ["Cc"]), ("cf", ["Cf"]), ("format", ["Cf"]), ("co", ["Co"]),
  ("privateuse", ["Co"])]

def categories (codes : List String) : Ranges :=
  Ranges.normalize (codes.flatMap fun code => (Category.all.lookup code).getD [])

def assigned : Ranges := categories (Category.all.map (·.1))

def category? (name : String) : Option Ranges :=
  if name = "any" then some [(0, 0x10FFFF)]
  else if name = "ascii" then some [(0, 0x7F)]
  else if name = "assigned" then some assigned
  else if name = "cn" ∨ name = "unassigned" then
    some ((Ranges.complement assigned).diff [(0xD800, 0xDFFF)])
  else if name = "cs" ∨ name = "surrogate" then some []
  else if name = "c" ∨ name = "other" then
    some (((categories ["Cc", "Cf", "Co"]).union (Ranges.complement assigned)).diff [(0xD800, 0xDFFF)])
  else (categoryGroups.lookup name).map categories

def script? (name : String) : Option Ranges :=
  (Script.all.find? fun (code, full, _) => code = name ∨ full = name).map (·.2.2)

/-- A class by its name: a property, a category or a script. -/
def named? (name : String) : Option Ranges :=
  let name := normalName name
  let property := if name = "cf" ∨ name = "sc" ∨ name = "lc" then none else Property.all.lookup name
  match property with
  | some r => some r
  | none => match category? name with
    | some r => some r
    | none => script? name

def valued? (name value : String) : Option Ranges :=
  match normalName name with
  | "gc" | "generalcategory" => category? (normalName value)
  | "sc" | "script" | "scx" | "scriptextensions" => script? (normalName value)
  | _ => none

/-- A set together with all characters that differ from one of its own in case only. -/
def foldCase (set : Ranges) : Ranges :=
  let extra := Case.foldRuns.flatMap fun r =>
    (List.range ((r.last - r.first) / r.step + 1)).flatMap fun i =>
      let alike := Case.variants (Char.ofNat (r.first + i * r.step))
      if alike.any fun c => set.contains c then alike.map fun c => (c.toNat, c.toNat) else []
  Ranges.normalize (set ++ extra)

end Classes

/-- Blank characters between the parts of a verbose expression, and comments up to the line's end. -/
def skipVerbose : List Char → List Char
  | [] => []
  | '#' :: rest => skipComment rest
  | c :: rest => if isBlankMark c then skipVerbose rest else c :: rest
where
  isBlankMark (c : Char) : Bool := Property.whiteSpace.contains c
  skipComment : List Char → List Char
    | [] => []
    | '\n' :: rest => skipVerbose rest
    | _ :: rest => skipComment rest

def skip (f : Flags) (cs : List Char) : List Char := if f.verbose then skipVerbose cs else cs

/-- A unit of an expression: one character, a class, a condition or a literal. -/
inductive Primitive where
  | literal (c : Char)
  | set (r : Ranges)
  | look (l : Look)

def isMeta (c : Char) : Bool := "\\.+*?()|[]\x7b\x7d^$#&-~".toList.contains c

def isEscapable (c : Char) : Bool :=
  isMeta c || (c.toNat < 128 && !c.isAlphanum && c != '<' && c != '>')

def isHexDigit (c : Char) : Bool := c.isDigit || ('a' ≤ c && c ≤ 'f') || ('A' ≤ c && c ≤ 'F')

def hexOf (cs : List Char) : Nat :=
  cs.foldl (fun n c => n * 16 + (if c.isDigit then c.toNat - 48 else c.toLower.toNat - 87)) 0

def charOf? (n : Nat) : Option Char := if n.isValidChar then some (Char.ofNat n) else none

/-- A number of hexadecimal digits, blanks between them skipped in a verbose expression. -/
def hexDigits? (f : Flags) : Nat → List Char → Option (List Char × List Char)
  | 0, cs => some ([], cs)
  | n + 1, c :: rest =>
    if isHexDigit c then (hexDigits? f n (skip f rest)).map fun (ds, rest) => (c :: ds, rest) else none
  | _ + 1, [] => none

/-- Hexadecimal digits up to a closing brace. -/
def hexBraced? (f : Flags) : Nat → List Char → Option (List Char × List Char)
  | 0, _ => none
  | fuel + 1, cs =>
    match skip f cs with
    | '}' :: rest => some ([], rest)
    | c :: rest =>
      if isHexDigit c then (hexBraced? f fuel rest).map fun (ds, rest) => (c :: ds, rest) else none
    | [] => none

/-- A character by its number, behind the letter that tells the count of digits. -/
def hexEscape? (f : Flags) (count : Nat) (cs : List Char) : Option (Primitive × List Char) := do
  let cs := skip f cs
  let (ds, rest) ← match cs with
    | '{' :: rest => hexBraced? f (rest.length + 1) rest
    | _ => hexDigits? f count cs
  if ds.isEmpty then none
  else do
    let c ← charOf? (hexOf ds)
    if !f.unicode && count == 2 && 0x7F < c.toNat && cs.head? != some '{' then none
    else return (.literal c, skip f rest)

/-- The text up to a closing brace, blanks skipped in a verbose expression. -/
def nameBraced? (f : Flags) : Nat → List Char → Option (List Char × List Char)
  | 0, _ => none
  | fuel + 1, cs =>
    match skip f cs with
    | '}' :: rest => some ([], rest)
    | c :: rest => (nameBraced? f fuel rest).map fun (ds, rest) => (c :: ds, rest)
    | [] => none

/-- Splits a text at the first place where a separator stands. -/
def splitAt? (separator : List Char) : List Char → Option (List Char × List Char)
  | [] => none
  | c :: rest =>
    if separator.isPrefixOf (c :: rest) then some ([], (c :: rest).drop separator.length)
    else (splitAt? separator rest).map fun (a, b) => (c :: a, b)

def withCase (f : Flags) (negated : Bool) (r : Ranges) : Ranges :=
  let r := if f.ignoreCase then Classes.foldCase r else r
  if negated then r.complement else r

def propertyEscape? (f : Flags) (negated : Bool) (cs : List Char) : Option (Primitive × List Char) :=
  if !f.unicode then none
  else
    match skip f cs with
    | '{' :: rest => do
      let (name, rest) ← nameBraced? f (rest.length + 1) rest
      let text (cs : List Char) := String.ofList cs
      let (found, flip) := match splitAt? ['!', '='] name with
        | some (a, b) => (Classes.valued? (text a) (text b), true)
        | none => match splitAt? [':'] name with
          | some (a, b) => (Classes.valued? (text a) (text b), false)
          | none => match splitAt? ['='] name with
            | some (a, b) => (Classes.valued? (text a) (text b), false)
            | none => (Classes.named? (text name), false)
      return (.set (withCase f (negated != flip) (← found)), rest)
    | c :: rest =>
      if c = '\\' then none
      else do return (.set (withCase f negated (← Classes.named? c.toString)), skip f rest)
    | [] => none

/-- The special boundary named in braces behind `b`; `none` inside if the brace opens a count. -/
def boundaryName? (f : Flags) (cs : List Char) : Option (Option (String × List Char)) :=
  let isNameChar (c : Char) : Bool := c.isAlpha || c == '-'
  match skip f cs with
  | [] => none
  | c :: rest =>
    if !isNameChar c then some none
    else
      let rec collect : Nat → List Char → List Char × List Char
        | 0, cs => ([], cs)
        | fuel + 1, cs => match cs with
          | c :: rest =>
            if isNameChar c then
              let (ds, rest) := collect fuel (skip f rest)
              (c :: ds, rest)
            else ([], c :: rest)
          | [] => ([], [])
      let (name, rest) := collect (rest.length + 1) (c :: rest)
      match rest with
      | '}' :: rest => some (some (String.ofList name, rest))
      | _ => none

def letterClass (f : Flags) (c : Char) : Option Ranges :=
  match c with
  | 'd' => some (if f.unicode then Category.nd else Classes.asciiDigit)
  | 's' => some (if f.unicode then Property.whiteSpace else Classes.asciiSpace)
  | 'w' => some (if f.unicode then Classes.word else Classes.asciiWord)
  | 'D' => some (if f.unicode then Ranges.complement Category.nd else Ranges.complement Classes.asciiDigit)
  | 'S' => some (Ranges.complement (if f.unicode then Property.whiteSpace else Classes.asciiSpace))
  | 'W' => some (Ranges.complement (if f.unicode then Classes.word else Classes.asciiWord))
  | _ => none

def escape? (f : Flags) : List Char → Option (Primitive × List Char)
  | [] => none
  | c :: rest =>
    match letterClass f c with
    | some r => if !f.unicode && r.any (fun x => 0x7F < x.2) then none else some (.set r, rest)
    | none =>
      let ascii := !f.unicode
      if c = 'x' then hexEscape? f 2 rest
      else if c = 'u' then hexEscape? f 4 rest
      else if c = 'U' then hexEscape? f 8 rest
      else if c = 'p' then propertyEscape? f false rest
      else if c = 'P' then propertyEscape? f true rest
      else if isEscapable c then some (.literal c, rest)
      else match c with
        | 'a' => some (.literal '\x07', rest)
        | 'f' => some (.literal '\x0c', rest)
        | 't' => some (.literal '\t', rest)
        | 'n' => some (.literal '\n', rest)
        | 'r' => some (.literal '\r', rest)
        | 'v' => some (.literal '\x0b', rest)
        | 'A' => some (.look .textStart, rest)
        | 'z' => some (.look .textEnd, rest)
        | 'B' => some (.look (.notBoundary ascii), rest)
        | '<' => some (.look (.wordStart ascii), rest)
        | '>' => some (.look (.wordEnd ascii), rest)
        | 'b' =>
          match rest with
          | '{' :: inner =>
            match boundaryName? f inner with
            | none => none
            | some none => some (.look (.boundary ascii), rest)
            | some (some ("start", rest)) => some (.look (.wordStart ascii), rest)
            | some (some ("end", rest)) => some (.look (.wordEnd ascii), rest)
            | some (some ("start-half", rest)) => some (.look (.wordStartHalf ascii), rest)
            | some (some ("end-half", rest)) => some (.look (.wordEndHalf ascii), rest)
            | some (some _) => none
          | rest => some (.look (.boundary ascii), rest)
        | _ => none

namespace ClassSyntax

inductive Op where
  | inter | diff | symm

def Op.apply (f : Flags) (op : Op) (a b : Ranges) : Ranges :=
  let a := if f.ignoreCase then Classes.foldCase a else a.normalize
  let b := if f.ignoreCase then Classes.foldCase b else b.normalize
  match op with
  | .inter => a.inter b
  | .diff => a.diff b
  | .symm => (a.diff b).union (b.diff a)

/-- A named class such as `[:alpha:]` behind its opening bracket. -/
def named? : List Char → Option (Ranges × Bool × List Char)
  | ':' :: rest =>
    let (negated, rest) := match rest with | '^' :: r => (true, r) | r => (false, r)
    let name := rest.takeWhile (· ≠ ':')
    match rest.dropWhile (· ≠ ':') with
    | ':' :: ']' :: rest => (Classes.bracketed? (String.ofList name)).map fun r => (r, negated, rest)
    | _ => none
  | _ => none

def item? (f : Flags) : List Char → Option (Primitive × List Char)
  | '\\' :: rest => escape? f rest
  | c :: rest => if !f.unicode && 0x7F < c.toNat then none else some (.literal c, rest)
  | [] => none

/-- The character behind the next one, blanks skipped. -/
def peek (f : Flags) (cs : List Char) : Option Char := (skip f cs).head?

/-- An item or a range of characters. -/
def range? (f : Flags) (cs : List Char) : Option (Ranges × List Char) := do
  let (first, rest) ← item? f cs
  let rest := skip f rest
  if rest.isEmpty then none
  else
    let single : Option (Ranges × List Char) := match first with
      | .literal c => some ([(c.toNat, c.toNat)], rest)
      | .set r => some (r, rest)
      | .look _ => none
    match rest with
    | '-' :: more =>
      if peek f more = some ']' ∨ peek f more = some '-' then single
      else do
        let (last, rest) ← item? f (skip f more)
        match first, last with
        | .literal a, .literal b =>
          if a ≤ b then return ([(a.toNat, b.toNat)], rest) else none
        | _, _ => none
    | _ => single

/-- Hyphens at the start of a set stand for themselves. -/
def hyphens (f : Flags) : Nat → List Char → Nat × List Char
  | 0, cs => (0, cs)
  | fuel + 1, cs =>
    match cs with
    | '-' :: rest =>
      let (n, rest) := hyphens f fuel (skip f rest)
      (n + 1, rest)
    | cs => (0, cs)

/-- The opening of a set behind its bracket: whether it is negated, what it holds so far, the rest. -/
def opening (f : Flags) (cs : List Char) : Bool × Ranges × List Char :=
  let cs := skip f cs
  let (negated, cs) := match cs with
    | '^' :: rest => (true, skip f rest)
    | cs => (false, cs)
  let (n, cs) := hyphens f cs.length cs
  if 0 < n then (negated, [(0x2D, 0x2D)], cs)
  else match cs with
    | ']' :: rest => (negated, [(0x5D, 0x5D)], skip f rest)
    | cs => (negated, [], cs)

/-- Finishes the operation that waits for a right side. -/
def finish (f : Flags) (left : Option (Op × Ranges)) (right : Ranges) : Ranges :=
  match left with
  | some (op, l) => op.apply f l right
  | none => right

/-- The inside of a set up to its closing bracket; `depth` sets may be opened inside it. -/
def body? (f : Flags) : Nat → Nat → Option (Op × Ranges) → Ranges → List Char →
    Option (Ranges × List Char)
  | 0, _, _, _, _ => none
  | fuel + 1, depth, left, items, cs =>
    let operation (op : Op) (rest : List Char) :=
      body? f fuel depth (some (op, finish f left items)) [] rest
    match skip f cs with
    | [] => none
    | ']' :: rest => some (finish f left items, rest)
    | '&' :: '&' :: rest => operation .inter rest
    | '-' :: '-' :: rest => operation .diff rest
    | '~' :: '~' :: rest => operation .symm rest
    | '[' :: rest =>
      match named? rest with
      | some (r, negated, rest) => body? f fuel depth left (items ++ withCase f negated r) rest
      | none =>
        match depth with
        | 0 => none
        | depth + 1 => do
          let (negated, start, rest) := opening f rest
          let (r, rest) ← body? f fuel depth none start rest
          body? f fuel (depth + 1) left (items ++ withCase f negated r) rest
    | cs => do
      let (r, rest) ← range? f cs
      body? f fuel depth left (items ++ r) rest

def read? (f : Flags) (depth : Nat) (cs : List Char) : Option (Ranges × List Char) := do
  let (negated, start, rest) := opening f cs
  let (r, rest) ← body? f (cs.length + 1) depth none start rest
  let r := Ranges.normalize (withCase f negated r)
  if !f.unicode && r.any (fun x => 0x7F < x.2) then none else return (r, rest)

end ClassSyntax

def literal (f : Flags) (c : Char) : Expression :=
  let same : Ranges := [(c.toNat, c.toNat)]
  if !f.ignoreCase then .one same
  else if f.unicode then .one (Ranges.normalize ((Case.variants c).map fun d => (d.toNat, d.toNat)))
  else if c.isAlpha then
    .one (Ranges.normalize [(c.toLower.toNat, c.toLower.toNat), (c.toUpper.toNat, c.toUpper.toNat)])
  else .one same

def ofPrimitive (f : Flags) : Primitive → Expression
  | .literal c => literal f c
  | .set r => .one r
  | .look l => .look l

/-- Any character, or any that ends no line. -/
def dot? (f : Flags) : Option (Expression) :=
  if !f.unicode then none
  else if f.dotAll then some (.one [(0, 0x10FFFF)])
  else if f.anyLineEnd then some (.one (Ranges.complement [(0x0A, 0x0A), (0x0D, 0x0D)]))
  else some (.one (Ranges.complement [(0x0A, 0x0A)]))

def caret (f : Flags) : Look :=
  if !f.multiLine then .textStart else if f.anyLineEnd then .lineStartAny else .lineStart

def dollar (f : Flags) : Look :=
  if !f.multiLine then .textEnd else if f.anyLineEnd then .lineEndAny else .lineEnd

def Flags.set? (f : Flags) (c : Char) (on : Bool) : Option Flags :=
  match c with
  | 'i' => some { f with ignoreCase := on }
  | 'm' => some { f with multiLine := on }
  | 's' => some { f with dotAll := on }
  | 'U' => some { f with swapGreed := on }
  | 'u' => some { f with unicode := on }
  | 'R' => some { f with anyLineEnd := on }
  | 'x' => some { f with verbose := on }
  | _ => none

/-- Flags up to `:` or `)`: each letter once, a minus sign once and not last. Gives the flags, whether
there were any, the closing character and the rest. -/
def flags? (f : Flags) (on : Bool) (seen : List Char) : List Char →
    Option (Flags × List Char × Char × List Char)
  | [] => none
  | c :: rest =>
    if c = ':' ∨ c = ')' then
      if seen.head? = some '-' then none else some (f, seen, c, rest)
    else if seen.contains c then none
    else if c = '-' then flags? f false ('-' :: seen) rest
    else do flags? (← f.set? c on) on (c :: seen) rest

inductive Opening where
  | group (name : Option String) (f : Flags) (rest : List Char)
  | switch (f : Flags) (rest : List Char)

def isNameStart (c : Char) : Bool := c = '_' || Case.isAlphabetic c

def isNameChar (c : Char) : Bool :=
  c = '_' || c = '.' || c = '[' || c = ']' || Case.isAlphanumeric c

def groupName? (f : Flags) (cs : List Char) : Option Opening :=
  let name := cs.takeWhile (· ≠ '>')
  match name, cs.dropWhile (· ≠ '>') with
  | c :: more, '>' :: rest =>
    if isNameStart c && more.all isNameChar then some (.group (some (String.ofList name)) f rest)
    else none
  | _, _ => none

def opening? (f : Flags) (cs : List Char) : Option Opening :=
  match skip f cs with
  | '?' :: '=' :: _ | '?' :: '!' :: _ | '?' :: '<' :: '=' :: _ | '?' :: '<' :: '!' :: _ => none
  | '?' :: 'P' :: '<' :: rest | '?' :: '<' :: rest => groupName? f rest
  | '?' :: rest => do
    let (g, seen, close, rest) ← flags? f true [] rest
    if close = ')' then (if seen.isEmpty then none else return .switch g rest)
    else return .group none g rest
  | rest => some (.group none f rest)

/-- A decimal number of at most 32 bits with blanks around it. -/
def count? (cs : List Char) : Option (Nat × List Char) :=
  let isSpace (c : Char) : Bool := Property.whiteSpace.contains c
  let cs := cs.dropWhile isSpace
  let ds := cs.takeWhile Char.isDigit
  let n := ds.foldl (fun n c => n * 10 + (c.toNat - 48)) 0
  if ds.isEmpty ∨ Nat.pow 2 32 ≤ n then none
  else some (n, (cs.dropWhile Char.isDigit).dropWhile isSpace)

/-- The counts of a repetition behind its brace. -/
def counts? (f : Flags) (cs : List Char) : Option (Nat × Option Nat × List Char) := do
  let (least, rest) ← count? (skip f cs)
  match rest with
  | '}' :: rest => return (least, some least, rest)
  | ',' :: rest =>
    match skip f rest with
    | '}' :: rest => return (least, none, rest)
    | rest =>
      let (most, rest) ← count? rest
      match rest with
      | '}' :: rest => if least ≤ most then return (least, some most, rest) else none
      | _ => none
  | _ => none

/-- A part of a sequence, the latest first: an expression, or a switch of flags, which cannot be
repeated. -/
abbrev Items := List (Option (Expression))

/-- The parts of a sequence, the latest first, as one expression. -/
def sequence (items : Items) : Expression :=
  items.foldl (fun out item => match item, out with
    | some r, .empty => r
    | some r, out => .seq r out
    | none, out => out) .empty

def dropLazy : List Char → List Char
  | '?' :: rest => rest
  | cs => cs

def repeat? (items : Items) (least : Nat) (most : Option Nat) : Option Items :=
  match items with
  | some r :: rest => some (some (.repeated r least most) :: rest)
  | _ => none

/-- An alternation up to the end of its group. `before` holds the finished branches, the latest
first; `depth` groups may be opened inside. -/
def alternation? : Nat → Nat → Flags → Items → List (Expression) → List Char →
    Option (Expression × List Char)
  | 0, _, _, _, _, _ => none
  | fuel + 1, depth, f, items, before, cs =>
    let next (r : Expression) (rest : List Char) :=
      alternation? fuel depth f (some r :: items) before rest
    let repeating (least : Nat) (most : Option Nat) (rest : List Char) := do
      alternation? fuel depth f (← repeat? items least most) before (dropLazy rest)
    match skip f cs with
    | [] => some (before.foldl (fun out b => .alt b out) (sequence items), [])
    | ')' :: rest => some (before.foldl (fun out b => .alt b out) (sequence items), ')' :: rest)
    | '|' :: rest => alternation? fuel depth f [] (sequence items :: before) rest
    | '(' :: rest =>
      match opening? f rest with
      | none => none
      | some (.switch g rest) => alternation? fuel depth g (none :: items) before rest
      | some (.group name g rest) =>
        match depth with
        | 0 => none
        | depth + 1 => do
          let (r, rest) ← alternation? fuel depth g [] [] rest
          match rest with
          | ')' :: rest => alternation? fuel (depth + 1) f (some (.group name r) :: items) before rest
          | _ => none
    | '[' :: rest => do
      let (r, rest) ← ClassSyntax.read? f depth rest
      next (.one r) rest
    | '?' :: rest => repeating 0 (some 1) rest
    | '*' :: rest => repeating 0 none rest
    | '+' :: rest => repeating 1 none rest
    | '{' :: rest => do
      let (least, most, rest) ← counts? f rest
      repeating least most (skip f rest)
    | '\\' :: rest => do
      let (p, rest) ← escape? f rest
      next (ofPrimitive f p) rest
    | '.' :: rest => do next (← dot? f) rest
    | '^' :: rest => next (.look (caret f)) rest
    | '$' :: rest => next (.look (dollar f)) rest
    | c :: rest => next (literal f c) rest

namespace Regex

def names : Regex α β → List String
  | .empty | .one _ | .look _ => []
  | .seq a b | .alt a b => a.names ++ b.names
  | .repeated r _ _ => r.names
  | .group name r => name.toList ++ r.names

end Regex

/-- Reads an expression; a group name may be given once. -/
def parse? (source : String) : Option (Expression) := do
  let cs := source.toList
  let (r, rest) ← alternation? (cs.length + 1) nestLimit {} [] [] cs
  if rest.isEmpty && r.names.eraseDups.length == r.names.length then return r else none

end ApiAtlas.Pattern
