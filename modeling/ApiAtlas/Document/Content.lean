import ApiAtlas.Document.Schema

/-!
What requests and responses consist of: examples, media types, headers and parameters. Each of them,
media types apart, may be given by reference (`RefOr`). Readers take settled trees.
-/
namespace ApiAtlas

/-- A definition in place, or a reference to one by path. -/
inductive RefOr (α : Type) where
  | ref (path : String)
  | inline (a : α)

namespace RefOr

/-- A record with a `$ref` is a reference, whatever else it holds. -/
def ofTree? (read : Tree → Option α) (t : Tree) : Option (RefOr α) :=
  match t with
  | .record _ members =>
    match Tree.refPath? members with
    | some path => some (.ref path)
    | none => (read t).map .inline
  | t => (read t).map .inline

def read? (read : Tree → Option α) (t : Tree) : Option (RefOr α) := t.settle.bind (ofTree? read)

def toJson (write : α → Json) : RefOr α → Json
  | .ref path => .obj [("$ref", .str path)]
  | .inline a => write a

def inline? : RefOr α → Option α
  | .inline a => some a
  | .ref _ => none

end RefOr

structure Example where
  summary : Option String := none
  description : Option String := none
  value : Option Json := none
  externalValue : Option String := none

structure MediaType where
  schema : Option SchemaRef := none
  sample : Option Json := none
  examples : Table (RefOr Example) := []

structure Header where
  description : Option String := none
  required : Bool := false
  deprecated : Option Bool := none
  schema : Option SchemaRef := none
  sample : Option Json := none

inductive Location where
  | query | header | path | cookie
deriving DecidableEq, Repr

namespace Location

def text : Location → String
  | .query => "query"
  | .header => "header"
  | .path => "path"
  | .cookie => "cookie"

def all : List Location := [.query, .header, .path, .cookie]

def ofText? (s : String) : Option Location := all.find? (·.text = s)

end Location

structure Parameter where
  name : String
  location : Location
  description : Option String := none
  required : Bool := false
  deprecated : Option Bool := none
  schema : Option SchemaRef := none
  style : Option String := none
  explode : Option Bool := none
  sample : Option Json := none
  examples : Table (RefOr Example) := []

open ApiAtlas.Tree Member

namespace Example

def fieldNames : List String := ["summary", "description", "value", "externalValue"]

def ofTree? (t : Tree) : Option Example := do
  let f ← t.record? fieldNames
  return {
    summary := ← optional f "summary" text?
    description := ← optional f "description" text?
    value := ← optional f "value" toJson?
    externalValue := ← optional f "externalValue" text? }

def toJson (e : Example) : Json := .obj <|
  option "summary" .str e.summary
  ++ option "description" .str e.description
  ++ option "value" id e.value
  ++ option "externalValue" .str e.externalValue

end Example

namespace MediaType

def fieldNames : List String := ["schema", "example", "examples"]

def ofTree? (t : Tree) : Option MediaType := do
  let f ← t.record? fieldNames 2
  return {
    schema := ← optional f "schema" SchemaRef.ofTree?
    sample := ← optional f "example" toJson?
    examples := ← defaulted f "examples" [] (table? (RefOr.ofTree? Example.ofTree?)) }

def toJson (m : MediaType) : Json := .obj <|
  option "schema" SchemaRef.toJson m.schema
  ++ option "example" id m.sample
  ++ table "examples" (RefOr.toJson Example.toJson) m.examples

end MediaType

namespace Header

def fieldNames : List String := ["description", "required", "deprecated", "schema", "example"]

def ofTree? (t : Tree) : Option Header := do
  let f ← t.record? fieldNames
  return {
    description := ← optional f "description" text?
    required := ← defaulted f "required" false bool?
    deprecated := ← optional f "deprecated" bool?
    schema := ← optional f "schema" SchemaRef.ofTree?
    sample := ← optional f "example" toJson? }

def toJson (h : Header) : Json := .obj <|
  option "description" .str h.description
  ++ always "required" (.bool h.required)
  ++ option "deprecated" .bool h.deprecated
  ++ option "schema" SchemaRef.toJson h.schema
  ++ option "example" id h.sample

end Header

namespace Parameter

def fieldNames : List String :=
  ["name", "in", "description", "required", "deprecated", "schema", "style", "explode", "example",
    "examples"]

def location? (t : Tree) : Option Location :=
  (oneOf? (Location.all.map Location.text) t).bind Location.ofText?

def ofTree? (t : Tree) : Option Parameter := do
  let f ← t.record? fieldNames 9
  return {
    name := ← Tree.required f "name" text?
    location := ← Tree.required f "in" location?
    description := ← optional f "description" text?
    required := ← defaulted f "required" false bool?
    deprecated := ← optional f "deprecated" bool?
    schema := ← optional f "schema" SchemaRef.ofTree?
    style := ← optional f "style" text?
    explode := ← optional f "explode" bool?
    sample := ← optional f "example" toJson?
    examples := ← defaulted f "examples" [] (table? (RefOr.ofTree? Example.ofTree?)) }

def toJson (p : Parameter) : Json := .obj <|
  always "name" (.str p.name)
  ++ always "in" (.str p.location.text)
  ++ option "description" .str p.description
  ++ always "required" (.bool p.required)
  ++ option "deprecated" .bool p.deprecated
  ++ option "schema" SchemaRef.toJson p.schema
  ++ option "style" .str p.style
  ++ option "explode" .bool p.explode
  ++ option "example" id p.sample
  ++ table "examples" (RefOr.toJson Example.toJson) p.examples

end Parameter
end ApiAtlas
