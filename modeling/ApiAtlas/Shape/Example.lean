import ApiAtlas.Shape

/-!
A plausible value for a shape: the declared example, else the default, else the first listed value,
else one made from type and format. Values are not made below `exampleDepth` levels of nesting.
-/
namespace ApiAtlas.Shape

/-- Nodes nested deeper than this get null. -/
def exampleDepth : Nat := 8

/-- A text of a format. -/
def exampleText (format : Option String) : String :=
  match format with
  | some "email" => "user@example.com"
  | some "date" => "2023-01-01"
  | some "date-time" => "2023-01-01T12:00:00Z"
  | some "uuid" => "123e4567-e89b-12d3-a456-426614174000"
  | some "uri" | some "url" => "https://example.com"
  | some "ipv4" => "192.0.2.1"
  | _ => "example"

/-- The least integer above the minimum, inside the range of a 64-bit word. -/
def exampleInteger (f : Facets) : Int :=
  match f.minimum with
  | none => 1
  | some m =>
    let base := m.ceil.toWord
    if f.exclusiveMinimum && m.ceil.eqv m then min (base + 1) (Nat.pow 2 63 - 1) else base

def exampleNumber (f : Facets) : Binary64 :=
  let x := f.minimum.getD (.ofInt 1)
  if x.isFinite then x else .ofInt 1

/-- Objects among the values are merged, later members over earlier ones; if none has a member, the
last value that is neither object nor null stands. -/
def mergeExamples (values : List Json) : Json :=
  let merged := values.foldl (fun out v => match v with
    | .obj members => members.foldl (fun out m => Json.insertMember m.1 m.2 out) out
    | _ => out) []
  if merged.isEmpty then
    values.foldl (fun out v => match v with
      | .obj _ | .null => out
      | v => v) .null
  else .obj merged

/-- The value that a node declares. -/
def declaredExample (f : Facets) : Option Json := f.sample.or (f.default.or f.enum.head?)

mutual
def exampleAt : Shape → Nat → Json
  | .simple f parts, depth =>
    match declaredExample f with
    | some v => v
    | none =>
      if exampleDepth ≤ depth then .null
      else match f.type with
        | some .string => .str (exampleText f.format)
        | some .integer => .int (exampleInteger f)
        | some .number => .num (.real (exampleNumber f))
        | some .boolean => .bool true
        | some .array => itemExample parts (depth + 1)
        | some .object => memberExample parts (depth + 1)
        | some .null | none => .null
  | .allOf parts, depth => mergeExamples (exampleList parts depth)
  | .anyOf parts, depth | .oneOf parts, depth => firstExample parts depth
  | .not _, _ => .null
def itemExample : NodeParts Shape → Nat → Json
  | ⟨some s, _, _⟩, depth => .arr [exampleAt s depth]
  | ⟨none, _, _⟩, _ => .arr []
def memberExample : NodeParts Shape → Nat → Json
  | ⟨_, properties, _⟩, depth => Json.ofMembers (exampleTable properties depth)
def exampleList : List Shape → Nat → List Json
  | [], _ => []
  | s :: rest, depth => exampleAt s depth :: exampleList rest depth
def firstExample : List Shape → Nat → Json
  | [], _ => .null
  | s :: _, depth => exampleAt s depth
def exampleTable : List (String × Shape) → Nat → List (String × Json)
  | [], _ => []
  | (k, s) :: rest, depth => (k, exampleAt s depth) :: exampleTable rest depth
end

def sample (s : Shape) : Json := exampleAt s 0

end ApiAtlas.Shape
