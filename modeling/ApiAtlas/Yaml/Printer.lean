import ApiAtlas.Data
import ApiAtlas.Yaml.Text

/-!
YAML documents in block style. A list in a mapping stands at the indentation of its key, all else is
indented by two. Empty collections are written in brackets. A variant becomes a tag of its content; a
variant that directly holds another one cannot be written.
-/
namespace ApiAtlas.Yaml

/-- A document to be written. -/
inductive Node where
  /-- A scalar that is no text. -/
  | word (s : String)
  | text (s : String)
  | list (tag : Option String) (items : List Node)
  | map (tag : Option String) (entries : List (String × Node))
deriving Inhabited

namespace Node

mutual
def ofJson : Json → Node
  | .null => .word "null"
  | .bool b => .word (if b then "true" else "false")
  | .num (.whole n) => .word (toString n)
  | .num (.real x) => .word (Layout.yaml.write x)
  | .str s => .text s
  | .arr items => .list none (ofItems items)
  | .obj members => .map none (ofMembers members)
def ofItems : List Json → List Node
  | [] => []
  | v :: rest => ofJson v :: ofItems rest
def ofMembers : List (String × Json) → List (String × Node)
  | [] => []
  | (k, v) :: rest => (k, ofJson v) :: ofMembers rest
end

/-- Puts a tag on a collection. -/
def tagged (tag : String) : Node → Node
  | .list _ items => .list (some tag) items
  | .map _ entries => .map (some tag) entries
  | n => n

mutual
def ofData? : Data → Option Node
  | .value v => some (ofJson v)
  | .real x => some (.word (Layout.yaml.write x))
  | .list items => (ofListed? items).map (.list none)
  | .record members => (ofRecord? members).map (.map none)
  | .variant _ (.variant _ _) => none
  | .variant name content => (ofData? content).map (tagged ("!" ++ name))
def ofListed? : List Data → Option (List Node)
  | [] => some []
  | d :: rest => do return (← ofData? d) :: (← ofListed? rest)
def ofRecord? : List (String × Data) → Option (List (String × Node))
  | [] => some []
  | (k, d) :: rest => do return (k, ← ofData? d) :: (← ofRecord? rest)
end

end Node

/-- What stands before a node on its line. -/
inductive Place where
  | root
  | key
  /-- The mark of a list item, or of a key on lines of its own. -/
  | mark
  /-- The mark of a value whose key has lines of its own. -/
  | value
deriving DecidableEq, Repr

namespace Place

/-- The indentation of a mapping inside a collection indented by `indent`. -/
def mapIndent : Place → Nat → Nat
  | .root, _ => 0
  | _, indent => indent + 2

/-- The indentation of a list. -/
def listIndent (inlined : Bool) : Place → Nat → Nat
  | .root, _ => 0
  | .key, indent => indent
  | .mark, indent => indent + 2
  | .value, indent => if inlined then indent + 2 else indent

/-- The blank between a node and what stands before it. -/
def gap : Place → String
  | .root => ""
  | _ => " "

/-- The beginning of a collection: its tag if it has one, and a new line unless the first entry may
stand on the same line. -/
def opening (p : Place) (tag : Option String) (indent : Nat) : String :=
  match tag, p with
  | some t, _ => p.gap ++ t ++ "\n" ++ blanks indent
  | none, .key => "\n" ++ blanks indent
  | none, _ => p.gap

/-- An empty collection. -/
def empty (p : Place) (tag : Option String) (brackets : String) : Stretch :=
  ⟨p.gap ++ (match tag with | some t => t ++ " " | none => "") ++ brackets, false⟩

end Place

/-- Whether a key may stand before its value: it has one line of 128 bytes at most. -/
def isSimpleKey (key : String) : Bool :=
  !(key.toList.any Text.isBreak) && decide (key.utf8ByteSize ≤ 128)

/-- A stretch behind another one, on a new line. -/
def Stretch.line (indent : Nat) (a b : Stretch) : Stretch :=
  ⟨a.text ++ (if a.fresh then "" else "\n") ++ blanks indent ++ b.text, b.fresh⟩

def Stretch.behind (text : String) (p : Stretch) : Stretch := ⟨text ++ p.text, p.fresh⟩

def keyStretch (indent : Nat) (key : String) : Stretch × Place :=
  if isSimpleKey key then (⟨(Text.write indent key).text ++ ":", false⟩, .key)
  else (Stretch.line indent ((Text.write indent key).behind "? ") ⟨":", false⟩, .value)

mutual
/-- A node at a place inside a collection indented by `indent`. -/
def writeNode (p : Place) (indent : Nat) : Node → Stretch
  | .word s => ⟨p.gap ++ s, false⟩
  | .text s => (Text.write indent s).behind p.gap
  | .list tag [] => p.empty tag "[]"
  | .list tag (n :: rest) =>
    let inner := p.listIndent tag.isNone indent
    (writeItems inner (n :: rest)).behind (p.opening tag inner)
  | .map tag [] => p.empty tag "\x7b\x7d"
  | .map tag (e :: rest) =>
    let inner := p.mapIndent indent
    (writeEntries inner (e :: rest)).behind (p.opening tag inner)
def writeItems (indent : Nat) : List Node → Stretch
  | [] => ⟨"", false⟩
  | [n] => (writeNode .mark indent n).behind "-"
  | n :: m :: rest =>
    ((writeNode .mark indent n).behind "-").line indent (writeItems indent (m :: rest))
def writeEntries (indent : Nat) : List (String × Node) → Stretch
  | [] => ⟨"", false⟩
  | [(k, n)] =>
    let (key, place) := keyStretch indent k
    (writeNode place indent n).behind key.text
  | (k, n) :: e :: rest =>
    let (key, place) := keyStretch indent k
    ((writeNode place indent n).behind key.text).line indent (writeEntries indent (e :: rest))
end

def Node.write (n : Node) : String :=
  let p := writeNode .root 0 n
  if p.fresh then p.text else p.text ++ "\n"

def write? (d : Data) : Option String := (Node.ofData? d).map Node.write

example : (Node.ofJson (.obj [("a", .arr [.nat 1, .obj [("b", .null), ("c", .arr [])]])])).write
    = "a:\n- 1\n- b: null\n  c: []\n" := by decide

end ApiAtlas.Yaml
