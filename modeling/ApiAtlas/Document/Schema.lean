import ApiAtlas.Tree.Fields

/-!
Schemas as documents write them. A schema has keywords of its own (`Keywords`) and parts that are
schemas (`Subschemas`); each part is a schema or a reference by path (`SchemaRef`). `SchemaRef.ofTree?` reads one and
`SchemaRef.toJson` writes it back; keywords that are absent, empty lists and empty tables are not
written.
-/
namespace ApiAtlas

inductive TypeName where
  | string | number | integer | boolean | array | object | null
deriving DecidableEq, Repr, Inhabited

namespace TypeName

def text : TypeName → String
  | .string => "string"
  | .number => "number"
  | .integer => "integer"
  | .boolean => "boolean"
  | .array => "array"
  | .object => "object"
  | .null => "null"

def all : List TypeName := [.string, .number, .integer, .boolean, .array, .object, .null]

def ofText? (s : String) : Option TypeName := all.find? (·.text = s)

@[simp] theorem ofText?_text (t : TypeName) : ofText? t.text = some t := by
  cases t <;> decide

end TypeName

/-- The value of `type`: one name or a list of them. -/
inductive TypeSpec where
  | one (t : TypeName)
  | many (ts : List TypeName)
deriving DecidableEq, Repr

/-- An exclusive bound is a flag on the inclusive one, or a bound of its own. -/
inductive ExclusiveBound where
  | flag (b : Bool)
  | value (x : Binary64)
deriving DecidableEq, Repr

inductive AdditionalSpec (α : Type) where
  | flag (b : Bool)
  | schema (s : α)
deriving Repr

/-- The keywords of a schema that hold no schemas. -/
structure Keywords where
  type : Option TypeSpec := none
  format : Option String := none
  title : Option String := none
  description : Option String := none
  default : Option Json := none
  nullable : Option Bool := none
  required : List String := []
  enum : List Json := []
  minimum : Option Binary64 := none
  maximum : Option Binary64 := none
  exclusiveMinimum : Option ExclusiveBound := none
  exclusiveMaximum : Option ExclusiveBound := none
  multipleOf : Option Binary64 := none
  minLength : Option Nat := none
  maxLength : Option Nat := none
  pattern : Option String := none
  minItems : Option Nat := none
  maxItems : Option Nat := none
  uniqueItems : Option Bool := none
  readOnly : Option Bool := none
  writeOnly : Option Bool := none
  const : Option Json := none
  sample : Option Json := none
  deprecated : Option Bool := none
deriving DecidableEq, Inhabited

/-- The keywords of a schema that hold schemas of type `α`. -/
structure Subschemas (α : Type) where
  properties : List (String × α) := []
  additionalProperties : Option (AdditionalSpec α) := none
  items : Option α := none
  allOf : List α := []
  oneOf : List α := []
  anyOf : List α := []
  not : Option α := none
deriving Inhabited

inductive SchemaRef where
  | ref (path : String)
  | inline (keywords : Keywords) (parts : Subschemas SchemaRef)

structure Schema where
  keywords : Keywords := {}
  parts : Subschemas SchemaRef := {}
deriving Inhabited

instance : Inhabited SchemaRef := ⟨.inline {} {}⟩

namespace Tree

/-- The path of a reference: a record whose `$ref` is a text, whatever else it holds. -/
def refPath? (members : List (Tree × Tree)) : Option String := do
  required (← fields? ["$ref"] members) "$ref" text?

def typeName? (t : Tree) : Option TypeName :=
  (oneOf? (TypeName.all.map TypeName.text) t).bind TypeName.ofText?

def typeSpec? (t : Tree) : Option TypeSpec :=
  match typeName? t with
  | some n => some (.one n)
  | none => (list? typeName? t).map .many

def exclusiveBound? : Tree → Option ExclusiveBound
  | .bool b => some (.flag b)
  | t => (double? t).map .value

end Tree

namespace SchemaRef

/-- The keywords in the order in which they are written. -/
def keywordNames : List String :=
  ["type", "format", "title", "description", "default", "nullable", "properties", "required",
    "additionalProperties", "items", "allOf", "oneOf", "anyOf", "not", "enum", "minimum",
    "maximum", "exclusiveMinimum", "exclusiveMaximum", "multipleOf", "minLength", "maxLength",
    "pattern", "minItems", "maxItems", "uniqueItems", "readOnly", "writeOnly", "const", "example",
    "deprecated"]

/-- A member of a record with the ways to read schemas in it, none of them run yet. -/
structure Part where
  tree : Tree
  one : Unit → Option SchemaRef
  many : Unit → Option (List SchemaRef)
  named : Unit → Option (Table SchemaRef)

/-- An optional keyword with a schema. -/
def Part.optional (fields : List (String × Part)) (name : String) :
    Option (Option SchemaRef) :=
  match fields.lookup name with
  | none => some none
  | some p => do if ← p.tree.absent? then return none else return some (← p.one ())

def Part.additional (fields : List (String × Part)) (name : String) :
    Option (Option (AdditionalSpec SchemaRef)) :=
  match fields.lookup name with
  | none => some none
  | some p =>
    match p.tree with
    | .null => some none
    | .bool b => some (some (.flag b))
    | _ => (p.one ()).map fun s => some (.schema s)

def ofParts? (parts : List (Tree × Part)) : Option Schema := do
  let parts ← Tree.fields? keywordNames parts
  let plain := parts.map fun (k, p) => (k, p.tree)
  let text (name : String) := Tree.optional plain name Tree.text?
  let bool (name : String) := Tree.optional plain name Tree.bool?
  let word (name : String) := Tree.optional plain name Tree.word?
  let double (name : String) := Tree.optional plain name Tree.double?
  let value (name : String) := Tree.optional plain name Tree.toJson?
  let bound (name : String) := Tree.optional plain name Tree.exclusiveBound?
  let many (name : String) := Tree.defaulted parts name [] fun p => p.many ()
  let keywords : Keywords := {
    type := ← Tree.optional plain "type" Tree.typeSpec?
    format := ← text "format"
    title := ← text "title"
    description := ← text "description"
    default := ← value "default"
    nullable := ← bool "nullable"
    required := ← Tree.defaulted plain "required" [] (Tree.list? Tree.text?)
    enum := ← Tree.defaulted plain "enum" [] (Tree.list? Tree.toJson?)
    minimum := ← double "minimum"
    maximum := ← double "maximum"
    exclusiveMinimum := ← bound "exclusiveMinimum"
    exclusiveMaximum := ← bound "exclusiveMaximum"
    multipleOf := ← double "multipleOf"
    minLength := ← word "minLength"
    maxLength := ← word "maxLength"
    pattern := ← text "pattern"
    minItems := ← word "minItems"
    maxItems := ← word "maxItems"
    uniqueItems := ← bool "uniqueItems"
    readOnly := ← bool "readOnly"
    writeOnly := ← bool "writeOnly"
    const := ← value "const"
    sample := ← value "example"
    deprecated := ← bool "deprecated" }
  let subschemas : Subschemas SchemaRef := {
    properties := ← Tree.defaulted parts "properties" [] fun p => p.named ()
    additionalProperties := ← Part.additional parts "additionalProperties"
    items := ← Part.optional parts "items"
    allOf := ← many "allOf"
    oneOf := ← many "oneOf"
    anyOf := ← many "anyOf"
    not := ← Part.optional parts "not" }
  return ⟨keywords, subschemas⟩

mutual
/-- A schema or reference from a settled tree. -/
def ofTree? : Tree → Option SchemaRef
  | .record _ members =>
    match Tree.refPath? members with
    | some path => some (.ref path)
    | none => (ofParts? (parts members)).map fun s => .inline s.keywords s.parts
  | _ => none
def parts : List (Tree × Tree) → List (Tree × Part)
  | [] => []
  | (k, t) :: rest =>
    (k, ⟨t, fun _ => ofTree? t, fun _ => listOf? t, fun _ => tableOf? t⟩) :: parts rest
def listOf? : Tree → Option (List SchemaRef)
  | .list _ items => items? items
  | _ => none
def items? : List Tree → Option (List SchemaRef)
  | [] => some []
  | t :: rest => do return (← ofTree? t) :: (← items? rest)
def tableOf? : Tree → Option (Table SchemaRef)
  | .record _ members => (pairs? members).map Table.ofPairs
  | _ => none
def pairs? : List (Tree × Tree) → Option (List (String × SchemaRef))
  | [] => some []
  | (k, t) :: rest => do return ((← k.text?), (← ofTree? t)) :: (← pairs? rest)
end

def read? (t : Tree) : Option SchemaRef := t.settle.bind ofTree?

end SchemaRef

/-! Members of a record being written; absent fields leave no trace. -/
namespace Member

def always (name : String) (v : Json) : List (String × Json) := [(name, v)]

def option (name : String) (write : α → Json) : Option α → List (String × Json)
  | some a => [(name, write a)]
  | none => []

def list (name : String) (write : α → Json) : List α → List (String × Json)
  | [] => []
  | xs => [(name, .arr (xs.map write))]

def table (name : String) (write : α → Json) : Table α → List (String × Json)
  | [] => []
  | xs => [(name, .obj (xs.map fun (k, a) => (k, write a)))]

def flag (name : String) (b : Bool) : List (String × Json) := if b then [(name, .bool true)] else []

end Member

namespace SchemaRef

def typeJson : TypeSpec → Json
  | .one t => .str t.text
  | .many ts => .strs (ts.map TypeName.text)

def boundJson : ExclusiveBound → Json
  | .flag b => .bool b
  | .value x => .real x

def additionalJson : AdditionalSpec Json → Json
  | .flag b => .bool b
  | .schema v => v

/-- The members of a schema whose subschemas are already written. -/
def keywordMembers (s : Keywords) (parts : Subschemas Json) : List (String × Json) :=
  Member.option "type" typeJson s.type
  ++ Member.option "format" .str s.format
  ++ Member.option "title" .str s.title
  ++ Member.option "description" .str s.description
  ++ Member.option "default" id s.default
  ++ Member.option "nullable" .bool s.nullable
  ++ Member.table "properties" id parts.properties
  ++ Member.list "required" .str s.required
  ++ Member.option "additionalProperties" additionalJson parts.additionalProperties
  ++ Member.option "items" id parts.items
  ++ Member.list "allOf" id parts.allOf
  ++ Member.list "oneOf" id parts.oneOf
  ++ Member.list "anyOf" id parts.anyOf
  ++ Member.option "not" id parts.not
  ++ Member.list "enum" id s.enum
  ++ Member.option "minimum" .real s.minimum
  ++ Member.option "maximum" .real s.maximum
  ++ Member.option "exclusiveMinimum" boundJson s.exclusiveMinimum
  ++ Member.option "exclusiveMaximum" boundJson s.exclusiveMaximum
  ++ Member.option "multipleOf" .real s.multipleOf
  ++ Member.option "minLength" .nat s.minLength
  ++ Member.option "maxLength" .nat s.maxLength
  ++ Member.option "pattern" .str s.pattern
  ++ Member.option "minItems" .nat s.minItems
  ++ Member.option "maxItems" .nat s.maxItems
  ++ Member.option "uniqueItems" .bool s.uniqueItems
  ++ Member.option "readOnly" .bool s.readOnly
  ++ Member.option "writeOnly" .bool s.writeOnly
  ++ Member.option "const" id s.const
  ++ Member.option "example" id s.sample
  ++ Member.option "deprecated" .bool s.deprecated

section Traverse

variable {m : Type → Type} [Monad m]

mutual
/-- Visits every reference in a schema, in the order properties, items, composition, additional
properties, and puts what the visit gives in its place. -/
def traverse (visit : String → m SchemaRef) : SchemaRef → m SchemaRef
  | .ref path => visit path
  | .inline keywords parts => do return .inline keywords (← traverseParts visit parts)
def traverseParts (visit : String → m SchemaRef) : Subschemas SchemaRef → m (Subschemas SchemaRef)
  | ⟨properties, additional, items, allOf, oneOf, anyOf, not⟩ => do
    let properties ← traverseTable visit properties
    let items ← traverseOption visit items
    let allOf ← traverseList visit allOf
    let oneOf ← traverseList visit oneOf
    let anyOf ← traverseList visit anyOf
    let not ← traverseOption visit not
    let additional ← traverseAdditional visit additional
    return ⟨properties, additional, items, allOf, oneOf, anyOf, not⟩
def traverseTable (visit : String → m SchemaRef) : List (String × SchemaRef) → m (Table SchemaRef)
  | [] => return []
  | (k, s) :: rest => do
    let s ← traverse visit s
    return (k, s) :: (← traverseTable visit rest)
def traverseList (visit : String → m SchemaRef) : List SchemaRef → m (List SchemaRef)
  | [] => return []
  | s :: rest => do
    let s ← traverse visit s
    return s :: (← traverseList visit rest)
def traverseOption (visit : String → m SchemaRef) : Option SchemaRef → m (Option SchemaRef)
  | none => return none
  | some s => do return some (← traverse visit s)
def traverseAdditional (visit : String → m SchemaRef) :
    Option (AdditionalSpec SchemaRef) → m (Option (AdditionalSpec SchemaRef))
  | none => return none
  | some (.flag b) => return some (.flag b)
  | some (.schema s) => do return some (.schema (← traverse visit s))
end

end Traverse

mutual
def toJson : SchemaRef → Json
  | .ref path => .obj [("$ref", .str path)]
  | .inline keywords parts => .obj (keywordMembers keywords (written parts))
/-- The subschemas, each one written. -/
def written : Subschemas SchemaRef → Subschemas Json
  | ⟨properties, additional, items, allOf, oneOf, anyOf, not⟩ =>
    ⟨writtenTable properties, writtenAdditional additional, writtenOption items,
      writtenList allOf, writtenList oneOf, writtenList anyOf, writtenOption not⟩
def writtenTable : List (String × SchemaRef) → Table Json
  | [] => []
  | (k, s) :: rest => (k, toJson s) :: writtenTable rest
def writtenList : List SchemaRef → List Json
  | [] => []
  | s :: rest => toJson s :: writtenList rest
def writtenOption : Option SchemaRef → Option Json
  | none => none
  | some s => some (toJson s)
def writtenAdditional : Option (AdditionalSpec SchemaRef) → Option (AdditionalSpec Json)
  | none => none
  | some (.flag b) => some (.flag b)
  | some (.schema s) => some (.schema (toJson s))
end

end SchemaRef
end ApiAtlas
