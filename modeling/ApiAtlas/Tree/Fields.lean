import ApiAtlas.Table
import ApiAtlas.Tree

/-!
Reading values with known fields out of a tree. Every reader fails with `none`: a tree either has
the wanted form or it has not. A record names each known field at most once and may hold others; an
optional field may be null, a field with a default may be missing, but not null.
-/
namespace ApiAtlas.Tree

/-- The field that a key stands for: by name, or by number in the order of declaration. Keys of other
fields stand for none; a key that is neither fails. -/
def field? (names : List String) : Tree → Option (Option String)
  | .str s | .text _ _ s => some (if s ∈ names then some s else none)
  | .num (.whole n) => if 0 ≤ n then some names[n.toNat]? else none
  | _ => none

/-- The known fields among the members of a record. -/
def fields? (names : List String) : List (Tree × α) → Option (List (String × α))
  | [] => some []
  | (key, value) :: rest => do
    let found ← fields? names rest
    match ← field? names key with
    | none => return found
    | some name => if (found.lookup name).isSome then none else return (name, value) :: found

/-- The members of a record. A plain scalar without text is an empty record. A list of a typed tree
holds the fields of a record in order of declaration, at least `least` of them. -/
def members? (names : List String) (least : Nat) : Tree → Option (List (Tree × Tree))
  | .record _ members => some members
  | .text _ .plain s => if s = "" then some [] else none
  | .list none items =>
    if least ≤ items.length ∧ items.length ≤ names.length then
      some ((names.map Tree.str).zip items)
    else none
  | _ => none

def record? (names : List String) (t : Tree) (least : Nat := names.length) :
    Option (List (String × Tree)) :=
  (t.members? names least).bind (fields? names)

/-- Whether an optional field counts as missing. -/
def absent? : Tree → Option Bool
  | .null => some true
  | .text tag .plain s =>
    if tag = "" then some (s = "" ∨ Scalar.isNullWord s)
    else if tag = Scalar.nullTag then (if Scalar.isNullWord s then some true else none)
    else some false
  | .unreadable => none
  | _ => some false

def text? : Tree → Option String
  | .str s | .text _ _ s => some s
  | _ => none

/-- Whether a written scalar may be read as a type: it is plain, or a literal block with that
type's tag. -/
def allows (wanted tag : String) (style : Style) : Bool :=
  style = .plain ∨ (style = .literal ∧ tag = wanted)

def bool? : Tree → Option Bool
  | .bool b => some b
  | .text tag style s => if allows Scalar.boolTag tag style then Scalar.bool? s else none
  | _ => none

/-- An unsigned 64-bit number; a double is none, even if it is whole. -/
def word? : Tree → Option Nat
  | .num (.whole n) => if 0 ≤ n then some n.toNat else none
  | .text tag style s =>
    if allows Scalar.intTag tag style then
      (Scalar.nat? s.toList).bind fun n => if n < Nat.pow 2 64 then some n else none
    else none
  | _ => none

def double? : Tree → Option Binary64
  | .num n => some n.toBinary64
  | _ => none

/-- One of a set of names. In a typed tree a record with that name and null will do, and in a YAML
text the name may be the tag of an empty scalar. -/
def oneOf? (names : List String) : Tree → Option String
  | .str s => if s ∈ names then some s else none
  | .text tag style s =>
    let name := if Scalar.isLocal tag ∧ 1 < tag.length then String.ofList (tag.toList.drop 1) else tag
    if Scalar.isLocal tag then
      if name ∈ names ∧ style = .plain ∧ (s = "" ∨ Scalar.isNullWord s) then some name else none
    else if s ∈ names then some s else none
  | .record none [(.str s, .null)] => if s ∈ names then some s else none
  | _ => none

/-- The items of a list, each read; a plain scalar without text is an empty list. -/
def list? (read : Tree → Option α) : Tree → Option (List α)
  | .list _ items => items.mapM read
  | .text _ .plain s => if s = "" then some [] else none
  | _ => none

def table? (read : Tree → Option α) : Tree → Option (Table α)
  | .record _ members =>
    (members.mapM fun (k, t) => do return ((← text? k), (← read t))).map Table.ofPairs
  | .text _ .plain s => if s = "" then some [] else none
  | _ => none

def value? (t : Tree) : Option Json := t.settle.bind toJson?

section Field

variable {β : Type u} (fields : List (String × β))

/-- A field that must be there. -/
def required (name : String) (read : β → Option α) : Option α := (fields.lookup name).bind read

def defaulted (name : String) (default : α) (read : β → Option α) : Option α :=
  match fields.lookup name with
  | some t => read t
  | none => some default

end Field

/-- A field that may be missing or null. -/
def optional (fields : List (String × Tree)) (name : String) (read : Tree → Option α) :
    Option (Option α) :=
  match fields.lookup name with
  | none => some none
  | some t => do if ← t.absent? then return none else return some (← read t)

end ApiAtlas.Tree
