import ApiAtlas.Text.Utf8
import ApiAtlas.Tree

/-!
Reading JSON text. The bytes are cut into tokens (`Token.ofBytes?`), and the tokens drive a machine
with a stack of open collections (`Machine.step`), so that no nesting is too deep to read. Strings
that are no Unicode text, numbers beyond the doubles and collections nested deeper than `depthLimit`
are read, but have no value: a reader that skips them never notices.
-/
namespace ApiAtlas.Json

/-- Collections nested deeper than this have no value. -/
def depthLimit : Nat := 127

inductive Token where
  | openList | closeList | openRecord | closeRecord | comma | colon
  | scalar (t : Tree)
  | quoted (t : Tree)
deriving Inhabited

namespace Numeral

/-- Extends a 64-bit number by digits as long as it fits. Gives the number, how many digits went in
and the digits left over. -/
def absorb : Nat → List Char → Nat × Nat × List Char
  | n, [] => (n, 0, [])
  | n, c :: rest =>
    let m := n * 10 + (c.toNat - 48)
    if m < Nat.pow 2 64 then
      let (k, count, left) := absorb m rest
      (k, count + 1, left)
    else (n, 0, c :: rest)

/-- A power of ten as a double. -/
def power (e : Nat) : Binary64 := .ofDecimal false 1 e

/-- A double times a power of ten: one multiplication or division by a power that is itself a
double, two divisions below the range of powers. `none` if the result is not finite. -/
def scale (x : Binary64) (e : Int) : Option Binary64 :=
  if x.eqv .zero then some x
  else if 308 < e then none
  else if 0 ≤ e then
    let y := x.mul (power e.natAbs)
    if y.isFinite then some y else none
  else if -308 ≤ e then some (x.div (power e.natAbs))
  else if -616 ≤ e then some ((x.div (power 308)).div (power (e.natAbs - 308)))
  else some .zero

/-- A numeral with its parts apart. It is whole if it has neither fraction nor exponent and fits 64
bits; else its leading digits, as many as fit 64 bits, are rounded to a double and then scaled. -/
def value (negative : Bool) (digits : List Char) (fraction : Option (List Char))
    (exponent : Option Int) : Tree :=
  let (n, _, left) := absorb 0 digits
  let sign (x : Binary64) : Binary64 := if negative then x.neg else x
  let real (n : Nat) (e : Int) : Tree :=
    match scale (.ofInt n) e with
    | some x => .num (.real (sign x))
    | none => .unreadable
  match fraction, exponent with
  | none, none =>
    if left ≠ [] then real n left.length
    else if !negative then .num (.whole n)
    else if n = 0 ∨ Nat.pow 2 63 < n then .num (.real (Binary64.ofInt n).neg)
    else .num (.whole (-(n : Int)))
  | fraction, exponent =>
    let (m, count, _) := absorb n (fraction.getD [])
    real m ((left.length : Int) - count + exponent.getD 0)

/-- The exponent of a numeral and the rest of the text. -/
def exponent? : List Char → Option (Option Int × List Char)
  | c :: rest =>
    if c = 'e' ∨ c = 'E' then
      let (negative, rest) := Decimal.sign rest
      let ds := rest.takeWhile Char.isDigit
      if ds.isEmpty then none
      else
        let n : Int := Decimal.natOf ds
        some (some (if negative then -n else n), rest.dropWhile Char.isDigit)
    else some (none, c :: rest)
  | [] => some (none, [])

def read? (cs : List Char) : Option (Tree × List Char) :=
  let (negative, cs) := match cs with | '-' :: r => (true, r) | r => (false, r)
  let ds := cs.takeWhile Char.isDigit
  let rest := cs.dropWhile Char.isDigit
  if ds.isEmpty ∨ (ds.head? = some '0' ∧ 1 < ds.length) then none
  else
    match rest with
    | '.' :: rest =>
      let fs := rest.takeWhile Char.isDigit
      if fs.isEmpty then none
      else (exponent? (rest.dropWhile Char.isDigit)).map fun (e, rest) =>
        (value negative ds (some fs) e, rest)
    | rest => (exponent? rest).map fun (e, rest) => (value negative ds none e, rest)

end Numeral

namespace Quoted

/-- A piece of a quoted string: a byte as it stands, or an escaped unit of 16 bits. -/
inductive Piece where
  | byte (c : Char)
  | unit (n : Nat)

def hex? (c : Char) : Option Nat := (Scalar.digitValue c).bind fun d => if d < 16 then some d else none

def short? (c : Char) : Option Char :=
  match c with
  | '"' => some '"'
  | '\\' => some '\\'
  | '/' => some '/'
  | 'b' => some '\x08'
  | 'f' => some '\x0c'
  | 'n' => some '\n'
  | 'r' => some '\r'
  | 't' => some '\t'
  | _ => none

/-- The pieces up to the closing quote, and the rest. -/
def pieces? : List Char → Option (List Piece × List Char)
  | '"' :: rest => some ([], rest)
  | '\\' :: 'u' :: a :: b :: c :: d :: rest => do
    let n := (((← hex? a) * 16 + (← hex? b)) * 16 + (← hex? c)) * 16 + (← hex? d)
    let (ps, rest) ← pieces? rest
    return (.unit n :: ps, rest)
  | '\\' :: c :: rest => do
    let e ← short? c
    let (ps, rest) ← pieces? rest
    return (.byte e :: ps, rest)
  | c :: rest =>
    if c.toNat < 32 then none
    else do
      let (ps, rest) ← pieces? rest
      return (.byte c :: ps, rest)
  | [] => none

/-- The bytes of the pieces, two units of a pair joined. Fails on half a pair. -/
def join? : List Piece → Option (List Char)
  | [] => some []
  | .byte c :: rest => (join? rest).map (c :: ·)
  | .unit n :: rest =>
    if 0xD800 ≤ n ∧ n < 0xDC00 then
      match rest with
      | .unit m :: rest =>
        if 0xDC00 ≤ m ∧ m < 0xE000 then
          let c := Char.ofNat (0x10000 + (n - 0xD800) * 1024 + (m - 0xDC00))
          (join? rest).map (Utf8.encode c.toString ++ ·)
        else none
      | _ => none
    else if 0xDC00 ≤ n ∧ n < 0xE000 then none
    else (join? rest).map (Utf8.encode (Char.ofNat n).toString ++ ·)

def read? (cs : List Char) : Option (Tree × List Char) :=
  (pieces? cs).map fun (ps, rest) =>
    match (join? ps).bind Utf8.text? with
    | some s => (.str s, rest)
    | none => (.unreadable, rest)

end Quoted

namespace Token

def isBlank (c : Char) : Bool := c = ' ' ∨ c = '\n' ∨ c = '\t' ∨ c = '\r'

def word? (w : String) (t : Tree) (cs : List Char) : Option (Token × List Char) :=
  (Scalar.after? w cs).map fun rest => (.scalar t, rest)

/-- The first token of a text that does not begin with a blank, and the rest. -/
def first? : List Char → Option (Token × List Char)
  | '[' :: rest => some (.openList, rest)
  | ']' :: rest => some (.closeList, rest)
  | '{' :: rest => some (.openRecord, rest)
  | '}' :: rest => some (.closeRecord, rest)
  | ',' :: rest => some (.comma, rest)
  | ':' :: rest => some (.colon, rest)
  | '"' :: rest => (Quoted.read? rest).map fun (t, rest) => (.quoted t, rest)
  | 't' :: rest => word? "true" (.bool true) ('t' :: rest)
  | 'f' :: rest => word? "false" (.bool false) ('f' :: rest)
  | 'n' :: rest => word? "null" .null ('n' :: rest)
  | cs => (Numeral.read? cs).map fun (t, rest) => (.scalar t, rest)

/-- The tokens of a text; the fuel is the number of bytes, since a token takes at least one. -/
def cut? : Nat → List Char → Option (List Token)
  | fuel, cs =>
    match cs.dropWhile isBlank with
    | [] => some []
    | c :: rest =>
      match fuel with
      | 0 => none
      | fuel + 1 => do
        let (t, rest) ← first? (c :: rest)
        return t :: (← cut? fuel rest)

def ofBytes? (cs : List Char) : Option (List Token) := cut? cs.length cs

end Token

/-- An open collection with what it holds so far, the latest first. -/
inductive Frame where
  | items (done : List Tree)
  | members (done : List (Tree × Tree)) (key : Tree)

inductive Expect where
  | value | firstItem | firstKey | key | colon | separator

structure Machine where
  stack : List Frame
  expect : Expect
  /-- The value, once it is complete. -/
  result : Option Tree

namespace Machine

def start : Machine := ⟨[], .value, none⟩

def put (stack : List Frame) (t : Tree) : Machine :=
  match stack with
  | [] => ⟨[], .separator, some t⟩
  | .items done :: rest => ⟨.items (t :: done) :: rest, .separator, none⟩
  | .members done key :: rest => ⟨.members ((key, t) :: done) key :: rest, .separator, none⟩

/-- Closes a collection that lies inside `outer`; below the limit it loses its value. -/
def close (outer : List Frame) (t : Tree) : Machine :=
  put outer (if depthLimit ≤ outer.length then .unreadable else t)

def step (m : Machine) (t : Token) : Option Machine :=
  match m.expect, t, m.stack with
  | .value, .scalar v, stack | .firstItem, .scalar v, stack => some (put stack v)
  | .value, .quoted v, stack | .firstItem, .quoted v, stack => some (put stack v)
  | .value, .openList, stack | .firstItem, .openList, stack => some ⟨.items [] :: stack, .firstItem, none⟩
  | .value, .openRecord, stack | .firstItem, .openRecord, stack =>
    some ⟨.members [] .null :: stack, .firstKey, none⟩
  | .firstItem, .closeList, .items done :: outer => some (close outer (.list none done.reverse))
  | .firstKey, .closeRecord, .members done _ :: outer => some (close outer (.record none done.reverse))
  | .firstKey, .quoted k, .members done _ :: outer | .key, .quoted k, .members done _ :: outer =>
    some ⟨.members done k :: outer, .colon, none⟩
  | .colon, .colon, stack => some ⟨stack, .value, none⟩
  | .separator, .comma, .items done :: outer => some ⟨.items done :: outer, .value, none⟩
  | .separator, .comma, .members done k :: outer => some ⟨.members done k :: outer, .key, none⟩
  | .separator, .closeList, .items done :: outer => some (close outer (.list none done.reverse))
  | .separator, .closeRecord, .members done _ :: outer => some (close outer (.record none done.reverse))
  | _, _, _ => none

end Machine

def readTree? (bytes : List Char) : Option Tree := do
  let tokens ← Token.ofBytes? bytes
  let m ← tokens.foldlM Machine.step Machine.start
  if m.stack.isEmpty then m.result else none

/-- The value of a JSON text; every part of it must have one. -/
def read? (text : String) : Option Json := do
  let t ← readTree? (Utf8.encode text)
  (← t.settle).toJson?

end ApiAtlas.Json
