import ApiAtlas.Format.Date

/-!
Network addresses as texts: four decimal octets without leading zeros, and eight groups of up to four
hexadecimal digits, of which one run of at least one may be left out and the last two may be written
as four octets.
-/
namespace ApiAtlas.Address

def isHex (c : Char) : Bool := c.isDigit || ('a' ≤ c && c ≤ 'f') || ('A' ≤ c && c ≤ 'F')

def octet? (cs : List Char) : Option (List Char) :=
  match Date.digits? 1 3 cs with
  | some (n, rest) =>
    if n < 256 ∧ (cs.head? ≠ some '0' ∨ rest.length + 1 = cs.length) then some rest else none
  | none => none

/-- Four octets at the head of a text; gives the rest. -/
def four? (cs : List Char) : Option (List Char) := do
  let cs ← octet? cs
  let cs ← octet? (← Date.char? '.' cs)
  let cs ← octet? (← Date.char? '.' cs)
  octet? (← Date.char? '.' cs)

def acceptsFour (cs : List Char) : Bool := four? cs = some []

def group? (cs : List Char) : Option (List Char) :=
  let ds := (cs.take 4).takeWhile isHex
  if ds.isEmpty then none else some (cs.drop ds.length)

/-- Reads up to `room` groups, `done` of them read before. Gives their number, whether four octets
ended them, and the rest. -/
def groups : Nat → Nat → List Char → Nat × Bool × List Char
  | 0, done, cs => (done, false, cs)
  | room + 1, done, cs =>
    let inner := if done = 0 then some cs else Date.char? ':' cs
    match (if 0 < room then inner.bind four? else none) with
    | some rest => (done + 2, true, rest)
    | none =>
      match inner.bind group? with
      | some rest => groups room (done + 1) rest
      | none => (done, false, cs)

/-- Whether a text is an address of eight groups. -/
def acceptsEight (cs : List Char) : Bool :=
  let (head, octets, rest) := groups 8 0 cs
  if head = 8 then rest.isEmpty
  else if octets then false
  else match rest with
    | ':' :: ':' :: rest => (groups (7 - head) 0 rest).2.2.isEmpty
    | _ => false

example : acceptsEight "::ffff:1.2.3.4".toList = true := by decide
example : acceptsEight "1:2:3:4:5:6:7::".toList = true := by decide
example : acceptsEight "1:2:3:4:5:6:7:8:9".toList = false := by decide

end ApiAtlas.Address
