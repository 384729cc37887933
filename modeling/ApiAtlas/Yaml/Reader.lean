import ApiAtlas.Table
import ApiAtlas.Text.Utf8
import ApiAtlas.Yaml.Event

/-!
Trees of YAML texts. A text holds one document at most, and no document is a record without members.
An alias stands for the node with its anchor. Collections nested deeper than `depthLimit` are read,
but have no value, and so do aliases once there are too many of them.
-/
namespace ApiAtlas.Yaml

/-- Collections nested deeper than this have no value. -/
def depthLimit : Nat := 128

/-- The number of aliases that are followed for each event of a text. -/
def aliasesPerEvent : Nat := 100

/-- The characters that may stand in a text. -/
def isAllowed (c : Char) : Bool :=
  let n := c.toNat
  n = 9 ∨ n = 10 ∨ n = 13 ∨ (0x20 ≤ n ∧ n ≤ 0x7E) ∨ n = 0x85 ∨ (0xA0 ≤ n ∧ n ≤ 0xFFFD) ∨ 0x10000 ≤ n

/-- The anchors read so far: the number of each name, and the place of the node with each number. A
new anchor takes as its number how many names were known before it. -/
structure Anchors where
  numbers : Table Nat := []
  places : List (Nat × Nat) := []

namespace Anchors

def add (name : Option String) (place : Nat) (a : Anchors) : Anchors :=
  match name with
  | none => a
  | some name =>
    let number := a.numbers.length
    ⟨a.numbers.put name number, (number, place) :: a.places⟩

/-- Reads the events from a place on. Gives the number behind each alias, in order, and all anchors;
an alias must follow its anchor. -/
def ofEvents? : List Event → Nat → Anchors → Option (List Nat × Anchors)
  | [], _, a => some ([], a)
  | .alias name :: rest, place, a => do
    let number ← a.numbers.get? name
    let (numbers, a) ← ofEvents? rest (place + 1) a
    return (number :: numbers, a)
  | .scalar anchor .. :: rest, place, a | .openList anchor _ :: rest, place, a
  | .openRecord anchor _ :: rest, place, a => ofEvents? rest (place + 1) (a.add anchor place)
  | .close :: rest, place, a => ofEvents? rest (place + 1) a

end Anchors

/-- A part of a document, with places in the place of anchors. -/
inductive Piece where
  | scalar (tag : String) (style : Style) (text : String)
  | openList (tag : String)
  | openRecord (tag : String)
  | close
  | sameAs (place : Nat)
deriving Inhabited

namespace Piece

def ofEvents : List Event → List Nat → List Piece
  | [], _ => []
  | .scalar _ tag style text :: rest, places => .scalar tag style text :: ofEvents rest places
  | .openList _ tag :: rest, places => .openList tag :: ofEvents rest places
  | .openRecord _ tag :: rest, places => .openRecord tag :: ofEvents rest places
  | .close :: rest, places => .close :: ofEvents rest places
  | .alias _ :: rest, places => .sameAs (places.headD 0) :: ofEvents rest (places.drop 1)

/-- Over the rest of a collection, `level` of them being open. -/
def skip : Nat → List Piece → List Piece
  | _, [] => []
  | 0, ps => ps
  | level + 1, .close :: rest => skip level rest
  | level + 1, .openList _ :: rest | level + 1, .openRecord _ :: rest => skip (level + 2) rest
  | level + 1, _ :: rest => skip (level + 1) rest

/-- What a reading gives: a result, the pieces behind it, and the aliases that may still be
followed. -/
abbrev Reading (α : Type) := α × List Piece × Nat

mutual
/-- The tree of the node at the first piece; collections may nest `depth` more levels. -/
def tree (all : List Piece) : Nat → Nat → List Piece → Nat → Reading Tree
  | 0, _, ps, budget => (.unreadable, ps, budget)
  | fuel + 1, depth, ps, budget =>
    match ps with
    | [] => (.unreadable, [], budget)
    | .close :: rest => (.unreadable, rest, budget)
    | .scalar tag style text :: rest => (.text tag style text, rest, budget)
    | .sameAs place :: rest =>
      if budget = 0 then (.unreadable, rest, 0)
      else
        let (t, _, budget) := tree all fuel depth (all.drop place) (budget - 1)
        (t, rest, budget)
    | .openList tag :: rest =>
      if depth = 0 then (.unreadable, skip 1 rest, budget)
      else
        let (ts, rest, budget) := items all fuel (depth - 1) rest budget
        (.list (some tag) ts, rest, budget)
    | .openRecord tag :: rest =>
      if depth = 0 then (.unreadable, skip 1 rest, budget)
      else
        let (ts, rest, budget) := members all fuel (depth - 1) rest budget
        (.record (some tag) ts, rest, budget)
def items (all : List Piece) : Nat → Nat → List Piece → Nat → Reading (List Tree)
  | 0, _, ps, budget => ([], ps, budget)
  | fuel + 1, depth, ps, budget =>
    match ps with
    | [] => ([], [], budget)
    | .close :: rest => ([], rest, budget)
    | ps =>
      let (t, ps, budget) := tree all fuel depth ps budget
      let (ts, ps, budget) := items all fuel depth ps budget
      (t :: ts, ps, budget)
def members (all : List Piece) : Nat → Nat → List Piece → Nat → Reading (List (Tree × Tree))
  | 0, _, ps, budget => ([], ps, budget)
  | fuel + 1, depth, ps, budget =>
    match ps with
    | [] => ([], [], budget)
    | .close :: rest => ([], rest, budget)
    | ps =>
      let (k, ps, budget) := tree all fuel depth ps budget
      let (t, ps, budget) := tree all fuel depth ps budget
      let (ts, ps, budget) := members all fuel depth ps budget
      ((k, t) :: ts, ps, budget)
end

end Piece

def treeOf? (events : List Event) : Option Tree :=
  if events.isEmpty then some (.record (some "") [])
  else do
    let (numbers, anchors) ← Anchors.ofEvents? events 0 {}
    let pieces := Piece.ofEvents events (numbers.map fun n => (anchors.places.lookup n).getD 0)
    let size := events.length
    let (t, _) := Piece.tree pieces (2 * (depthLimit + 2) * (size + 2)) depthLimit pieces
      (aliasesPerEvent * size)
    return t

def readTree? (bytes : List Char) : Option Tree := do
  let cs ← Utf8.decode? bytes
  if cs.all isAllowed then
    treeOf? (← Event.ofTokens? (← Token.ofText? cs))
  else none

end ApiAtlas.Yaml
