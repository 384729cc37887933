import ApiAtlas.Data
import ApiAtlas.Json.Printer

/-!
Shapes: schemas with composition made explicit. A shape is a composition of shapes or a single node;
a node has facets of its own (`Facets`) and parts that are shapes (`NodeParts`). Shapes hold no
references. What a shape accepts is in `Shape.Check`.
-/
namespace ApiAtlas

/-- What holds of members that are not declared. -/
inductive Additional (α : Type) where
  | allowed
  | denied
  | shape (s : α)

/-- The requirements of a node that hold no shapes. -/
structure Facets where
  type : Option TypeName := none
  nullable : Bool := false
  format : Option String := none
  description : Option String := none
  enum : List Json := []
  default : Option Json := none
  sample : Option Json := none
  minimum : Option Binary64 := none
  maximum : Option Binary64 := none
  exclusiveMinimum : Bool := false
  exclusiveMaximum : Bool := false
  multipleOf : Option Binary64 := none
  minLength : Option Nat := none
  maxLength : Option Nat := none
  pattern : Option String := none
  minItems : Option Nat := none
  maxItems : Option Nat := none
  uniqueItems : Bool := false
  required : List String := []
  readOnly : Bool := false
  writeOnly : Bool := false
deriving DecidableEq, Inhabited

/-- The requirements of a node on its items and members. -/
structure NodeParts (α : Type) where
  items : Option α := none
  properties : List (String × α) := []
  additional : Additional α := .allowed

inductive Shape where
  | allOf (parts : List Shape)
  | anyOf (parts : List Shape)
  | oneOf (parts : List Shape)
  | not (part : Shape)
  | simple (facets : Facets) (parts : NodeParts Shape)

namespace Shape

/-- The shape that accepts every value. -/
def any : Shape := .simple {} {}

instance : Inhabited Shape := ⟨any⟩

def ofType (t : TypeName) : Shape := .simple { type := some t } {}

/-- An object with one declared member. -/
def singleField (name : String) (shape : Shape) (required : Bool) : Shape :=
  .simple { type := some .object, required := if required then [name] else [] }
    { properties := [(name, shape)] }

def facets? : Shape → Option Facets
  | .simple f _ => some f
  | _ => none

mutual
/-- The first type found, looking through composition. -/
def primaryType : Shape → Option TypeName
  | .simple f _ => f.type
  | .allOf parts | .anyOf parts | .oneOf parts => firstType parts
  | .not _ => none
def firstType : List Shape → Option TypeName
  | [] => none
  | s :: rest => match primaryType s with
    | some t => some t
    | none => firstType rest
end

mutual
/-- The name of the type in sentences. -/
def typeText : Shape → String
  | .simple f p => match f.type with
    | some .array => arrayText p
    | some t => t.text
    | none => "any"
  | .allOf _ => "allOf"
  | .anyOf _ => "anyOf"
  | .oneOf _ => "oneOf"
  | .not _ => "not"
def arrayText : NodeParts Shape → String
  | ⟨some s, _, _⟩ => "array of " ++ typeText s
  | ⟨none, _, _⟩ => "array"
end

def description? (s : Shape) : Option String := s.facets?.bind (·.description)

end Shape

namespace Json

/-- The text of a value inside a sentence: texts stand without quotes. -/
def render : Json → String
  | .str s => s
  | v => v.compact

def renderAll (values : List Json) : String := "[" ++ ", ".intercalate (values.map render) ++ "]"

end Json

namespace Facets

/-- The bounds, lengths, pattern and values of a node in one line. -/
def summary (f : Facets) : String :=
  let part (label : String) (text : Option String) : List String :=
    match text with
    | some t => [label ++ ": " ++ t]
    | none => []
  let parts :=
    part "min" (f.minimum.map Layout.plain.write)
    ++ part "max" (f.maximum.map Layout.plain.write)
    ++ part "minLength" (f.minLength.map toString)
    ++ part "maxLength" (f.maxLength.map toString)
    ++ part "pattern" f.pattern
    ++ part "enum" (if f.enum.isEmpty then none else some (Json.renderAll f.enum))
  if parts.isEmpty then "none" else ", ".intercalate parts

/-- The members of a written node whose parts are already written. -/
def members (f : Facets) (items : Option Data) (properties : List (String × Data))
    (additional : Additional Data) : List (String × Data) :=
  Data.plain (
    Member.option "type" (fun t => .str t.text) f.type
    ++ Member.flag "nullable" f.nullable
    ++ Member.option "format" .str f.format
    ++ Member.option "description" .str f.description
    ++ Member.list "enum" id f.enum
    ++ Member.option "default" id f.default
    ++ Member.option "example" id f.sample)
  ++ Data.option "minimum" .real f.minimum
  ++ Data.option "maximum" .real f.maximum
  ++ Data.plain (
    Member.flag "exclusiveMinimum" f.exclusiveMinimum
    ++ Member.flag "exclusiveMaximum" f.exclusiveMaximum)
  ++ Data.option "multipleOf" .real f.multipleOf
  ++ Data.plain (
    Member.option "minLength" .nat f.minLength
    ++ Member.option "maxLength" .nat f.maxLength
    ++ Member.option "pattern" .str f.pattern)
  ++ Data.option "items" id items
  ++ Data.plain (
    Member.option "minItems" .nat f.minItems
    ++ Member.option "maxItems" .nat f.maxItems
    ++ Member.flag "uniqueItems" f.uniqueItems)
  ++ Data.table "properties" id properties
  ++ Data.plain (Member.list "required" .str f.required)
  ++ (match additional with
    | .allowed => []
    | .denied => [("additionalProperties", .value (.str "denied"))]
    | .shape d => [("additionalProperties", .variant "schema" d)])
  ++ Data.plain (Member.flag "readOnly" f.readOnly ++ Member.flag "writeOnly" f.writeOnly)

end Facets

namespace Shape

/-- The constraints of a node in one line; a composition has none of its own. -/
def constraintSummary (s : Shape) : String :=
  match s.facets? with
  | some f => f.summary
  | none => "none"

mutual
/-- A shape to be written; a composition is a variant of the list of its parts. -/
def toData : Shape → Data
  | .allOf parts => .variant "allOf" (.list (listData parts))
  | .anyOf parts => .variant "anyOf" (.list (listData parts))
  | .oneOf parts => .variant "oneOf" (.list (listData parts))
  | .not part => .variant "not" (toData part)
  | .simple f parts => .record (nodeMembers f parts)
def nodeMembers (f : Facets) : NodeParts Shape → List (String × Data)
  | ⟨items, properties, additional⟩ =>
    f.members (optionData items) (tableData properties) (additionalData additional)
def listData : List Shape → List Data
  | [] => []
  | s :: rest => toData s :: listData rest
def optionData : Option Shape → Option Data
  | none => none
  | some s => some (toData s)
def tableData : List (String × Shape) → List (String × Data)
  | [] => []
  | (k, s) :: rest => (k, toData s) :: tableData rest
def additionalData : Additional Shape → Additional Data
  | .allowed => .allowed
  | .denied => .denied
  | .shape s => .shape (toData s)
end

def toJson (s : Shape) : Json := s.toData.toJson

end Shape
end ApiAtlas
