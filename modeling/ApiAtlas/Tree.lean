import ApiAtlas.Json.Value

/-!
What a reader of a text format hands over before the kinds of values are known. A JSON reader gives
typed scalars; a YAML reader gives written ones (`text`), whose type depends on who asks: a field of
text takes the characters as they stand, all else goes by the core schema (`Scalar.ofPlain`).
`settle` fixes the types of a whole tree; it fails on what has no typed reading.
-/
namespace ApiAtlas

/-- How a scalar stands in the text. -/
inductive Style where
  | plain | literal | quoted
deriving DecidableEq, Repr

inductive Tree where
  | null
  | bool (b : Bool)
  | num (n : Number)
  | str (s : String)
  | text (tag : String) (style : Style) (s : String)
  /-- A collection of a YAML text carries its tag, empty if there is none; any other has no tag. -/
  | list (tag : Option String) (items : List Tree)
  | record (tag : Option String) (members : List (Tree × Tree))
  /-- A part that was read, but has no value: too deep, or outside the range of its type. -/
  | unreadable
deriving Inhabited

namespace Scalar

def isNullWord (s : String) : Bool := s = "null" ∨ s = "Null" ∨ s = "NULL" ∨ s = "~"

def bool? (s : String) : Option Bool :=
  if s = "true" ∨ s = "True" ∨ s = "TRUE" then some true
  else if s = "false" ∨ s = "False" ∨ s = "FALSE" then some false
  else none

/-- The rest of a text behind the first of the given beginnings that fits. -/
def after? (start : String) (cs : List Char) : Option (List Char) :=
  if start.toList.isPrefixOf cs then some (cs.drop start.length) else none

def digitValue (c : Char) : Option Nat :=
  if c.isDigit then some (c.toNat - 48)
  else if 'a' ≤ c ∧ c ≤ 'z' then some (c.toNat - 87)
  else if 'A' ≤ c ∧ c ≤ 'Z' then some (c.toNat - 55)
  else none

/-- A nonempty row of digits of a base. -/
def natInBase? (base : Nat) (cs : List Char) : Option Nat :=
  if cs.isEmpty then none
  else cs.foldlM (fun n c => (digitValue c).bind fun d => if d < base then some (n * base + d) else none) 0

/-- Digits behind a zero are no number. -/
def isPadded (s : List Char) : Bool :=
  match (match s with | '-' :: r => r | '+' :: r => r | r => r) with
  | '0' :: c :: r => (c :: r).all Char.isDigit
  | _ => false

/-- A number in another base: `0x`, `0o` or `0b` and its digits. -/
def natWithBase? (cs : List Char) : Option Nat :=
  match cs with
  | '0' :: 'x' :: r => natInBase? 16 r
  | '0' :: 'o' :: r => natInBase? 8 r
  | '0' :: 'b' :: r => natInBase? 2 r
  | _ => none

def nat? (cs : List Char) : Option Nat :=
  let r := match cs with | '+' :: r => r | r => r
  match natWithBase? r with
  | some n => some n
  | none => if isPadded cs then none else natInBase? 10 r

/-- An integer numeral with a minus sign, the number without it. -/
def negated? : List Char → Option Nat
  | '-' :: r =>
    match natWithBase? r with
    | some n => some n
    | none => if isPadded r then none else natInBase? 10 r
  | _ => none

def int? (s : String) : Option Int :=
  match nat? s.toList with
  | some n => some n
  | none => (negated? s.toList).map fun n => -n

/-- A finite double, or one of the names of the other doubles. -/
def double? (s : String) : Option Binary64 :=
  let rest? : Option String := match s.toList with
    | '+' :: '+' :: _ | '+' :: '-' :: _ => none
    | '+' :: r => some (String.ofList r)
    | _ => some s
  rest?.bind fun rest =>
    if rest = ".inf" ∨ rest = ".Inf" ∨ rest = ".INF" then some (.infinite false)
    else if s = "-.inf" ∨ s = "-.Inf" ∨ s = "-.INF" then some (.infinite true)
    else if s = ".nan" ∨ s = ".NaN" ∨ s = ".NAN" then some .nan
    else (Decimal.readDouble? rest).bind fun x => if x.isFinite then some x else none

/-- An integer numeral as a typed scalar: outside 64 bits it has no value, outside 128 bits it is
not read as an integer at all. -/
def ofInt? (s : String) : Option Tree :=
  (int? s).bind fun n =>
    if Number.inRange n then some (.num (.whole n))
    else if -Nat.pow 2 127 ≤ n ∧ n < Nat.pow 2 128 then some .unreadable
    else none

/-- The type of a plain scalar: null, a truth value, an integer, a double, or else a text. -/
def ofPlain (s : String) : Tree :=
  if s = "" ∨ isNullWord s then .null
  else match bool? s with
    | some b => .bool b
    | none =>
      match ofInt? s with
      | some t => t
      | none =>
        if isPadded s.toList then .str s
        else match double? s with
          | some x => .num (.real x)
          | none => .str s

/-- The tags of the core schema that type a scalar. -/
def boolTag : String := "tag:yaml.org,2002:bool"
def intTag : String := "tag:yaml.org,2002:int"
def floatTag : String := "tag:yaml.org,2002:float"
def nullTag : String := "tag:yaml.org,2002:null"

def isLocal (tag : String) : Bool := tag.toList.head? = some '!'

def ofText (tag : String) (style : Style) (s : String) : Tree :=
  if isLocal tag then .unreadable
  else if tag = boolTag then (match bool? s with | some b => .bool b | none => .unreadable)
  else if tag = intTag then (ofInt? s).getD .unreadable
  else if tag = floatTag then (match double? s with | some x => .num (.real x) | none => .unreadable)
  else if tag = nullTag then (if isNullWord s then .null else .unreadable)
  else if tag = "" ∧ style = .plain then ofPlain s
  else .str s

example : (match ofPlain "010" with | .str s => s = "010" | _ => false) = true := by decide

end Scalar

namespace Tree

mutual
/-- Fixes the type of every scalar. Fails where a part has no typed reading. -/
def settle : Tree → Option Tree
  | .null => some .null
  | .bool b => some (.bool b)
  | .num n => some (.num n)
  | .str s => some (.str s)
  | .text tag style s =>
    match Scalar.ofText tag style s with
    | .unreadable => none
    | t => some t
  | .list tag items =>
    if Scalar.isLocal (tag.getD "") then none else (settleItems items).map (.list none)
  | .record tag members =>
    if Scalar.isLocal (tag.getD "") then none else (settleMembers members).map (.record none)
  | .unreadable => none
def settleItems : List Tree → Option (List Tree)
  | [] => some []
  | t :: rest => do return (← t.settle) :: (← settleItems rest)
def settleMembers : List (Tree × Tree) → Option (List (Tree × Tree))
  | [] => some []
  | (k, t) :: rest => do return ((← k.settle), (← t.settle)) :: (← settleMembers rest)
end

mutual
/-- A JSON value as the tree its reader gives. -/
def ofJson : Json → Tree
  | .null => .null
  | .bool b => .bool b
  | .num n => .num n
  | .str s => .str s
  | .arr items => .list none (ofItems items)
  | .obj members => .record none (ofMembers members)
def ofItems : List Json → List Tree
  | [] => []
  | a :: rest => ofJson a :: ofItems rest
def ofMembers : List (String × Json) → List (Tree × Tree)
  | [] => []
  | (k, a) :: rest => (.str k, ofJson a) :: ofMembers rest
end

mutual
/-- A settled tree as a value: keys must be texts, objects become sorted. -/
def toJson? : Tree → Option Json
  | .null => some .null
  | .bool b => some (.bool b)
  | .num (.whole n) => some (.num (.whole n))
  | .num (.real x) => some (.real x)
  | .str s => some (.str s)
  | .list _ items => (toItems? items).map .arr
  | .record _ members => (toMembers? members).map Json.ofMembers
  | .text .. | .unreadable => none
def toItems? : List Tree → Option (List Json)
  | [] => some []
  | t :: rest => do return (← t.toJson?) :: (← toItems? rest)
def toMembers? : List (Tree × Tree) → Option (List (String × Json))
  | [] => some []
  | (.str k, t) :: rest => do return (k, ← t.toJson?) :: (← toMembers? rest)
  | _ :: _ => none
end

end Tree
end ApiAtlas
