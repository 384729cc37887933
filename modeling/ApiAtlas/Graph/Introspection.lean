import ApiAtlas.Document.Schema

/-!
What a graph server says about its schema: types with their fields, arguments and values. Types are
referred to by name inside wrappers for lists and for values that are never null (`TypeRef`).
-/
namespace ApiAtlas.Graph

inductive TypeKind where
  | scalar | object | interface | union | enum | inputObject | list | nonNull
deriving DecidableEq, Repr

namespace TypeKind

def text : TypeKind → String
  | .scalar => "SCALAR"
  | .object => "OBJECT"
  | .interface => "INTERFACE"
  | .union => "UNION"
  | .enum => "ENUM"
  | .inputObject => "INPUT_OBJECT"
  | .list => "LIST"
  | .nonNull => "NON_NULL"

def all : List TypeKind :=
  [.scalar, .object, .interface, .union, .enum, .inputObject, .list, .nonNull]

def ofTree? (t : Tree) : Option TypeKind :=
  (Tree.oneOf? (all.map text) t).bind fun s => all.find? (·.text = s)

/-- Scalars and enumerations have no fields to select. -/
def isLeaf (k : TypeKind) : Bool := k = .scalar ∨ k = .enum

end TypeKind

/-- A reference to a type, perhaps over another one. -/
inductive TypeRef where
  | base (kind : TypeKind) (name : Option String)
  | wrapped (kind : TypeKind) (name : Option String) (inner : TypeRef)
deriving DecidableEq, Repr

namespace TypeRef

def kind : TypeRef → TypeKind
  | .base k _ | .wrapped k _ _ => k

/-- The kind of the innermost reference. -/
def baseKind : TypeRef → TypeKind
  | .base k _ => k
  | .wrapped _ _ t => t.baseKind

/-- The name of the innermost reference. -/
def baseName : TypeRef → String
  | .base _ name => name.getD "Unknown"
  | .wrapped _ _ t => t.baseName

/-- A reference as the schema language writes it, such as `[User!]!`. -/
def text : TypeRef → String
  | .wrapped .nonNull _ t => t.text ++ "!"
  | .wrapped .list _ t => "[" ++ t.text ++ "]"
  | .wrapped _ name _ | .base _ name => name.getD "Unknown"

def fieldNames : List String := ["kind", "name", "ofType"]

structure Part where
  tree : Tree
  inner : Unit → Option TypeRef

def ofParts? (parts : List (Tree × Part)) : Option TypeRef := do
  let parts ← Tree.fields? fieldNames parts
  let plain := parts.map fun (k, p) => (k, p.tree)
  let kind ← Tree.required plain "kind" TypeKind.ofTree?
  let name ← Tree.optional plain "name" Tree.text?
  match parts.lookup "ofType" with
  | none => return .base kind name
  | some p =>
    if ← p.tree.absent? then return .base kind name
    else return .wrapped kind name (← p.inner ())

mutual
def ofTree? : Tree → Option TypeRef
  | .record _ members => ofParts? (parts members)
  | .list none items =>
    if items.isEmpty || fieldNames.length < items.length then none
    else ofParts? (inOrder fieldNames items)
  | _ => none
def inOrder : List String → List Tree → List (Tree × Part)
  | name :: names, t :: rest => (.str name, ⟨t, fun _ => ofTree? t⟩) :: inOrder names rest
  | _, _ => []
def parts : List (Tree × Tree) → List (Tree × Part)
  | [] => []
  | (k, t) :: rest => (k, ⟨t, fun _ => ofTree? t⟩) :: parts rest
end

def toJson : TypeRef → Json
  | .base k name =>
    .obj [("kind", .str k.text), ("name", (name.map Json.str).getD .null), ("ofType", .null)]
  | .wrapped k name t =>
    .obj [("kind", .str k.text), ("name", (name.map Json.str).getD .null), ("ofType", t.toJson)]

end TypeRef

structure InputValue where
  name : String
  description : Option String := none
  type : TypeRef
  default : Option String := none

structure EnumValue where
  name : String
  description : Option String := none
  deprecated : Bool := false

structure Field where
  name : String
  description : Option String := none
  arguments : List InputValue := []
  type : TypeRef
  deprecated : Bool := false
  deprecationReason : Option String := none

structure FullType where
  kind : TypeKind
  name : Option String := none
  description : Option String := none
  fields : Option (List Field) := none
  inputFields : Option (List InputValue) := none
  interfaces : Option (List TypeRef) := none
  values : Option (List EnumValue) := none
  possibleTypes : Option (List TypeRef) := none

structure Introspection where
  query : Option String := none
  mutation : Option String := none
  subscription : Option String := none
  types : List FullType := []

open ApiAtlas.Tree

/-- A value that may be missing, written as null then. -/
def nullable (write : α → Json) (a : Option α) : Json := (a.map write).getD .null

namespace InputValue

/-- A value that is never null and has no default must be given. -/
def isRequired (v : InputValue) : Bool := v.type.kind = .nonNull ∧ v.default.isNone

def ofTree? (t : Tree) : Option InputValue := do
  let f ← t.record? ["name", "description", "type", "defaultValue"] 3
  return {
    name := ← Tree.required f "name" text?
    description := ← optional f "description" text?
    type := ← Tree.required f "type" TypeRef.ofTree?
    default := ← optional f "defaultValue" text? }

def toJson (v : InputValue) : Json := .obj [
  ("name", .str v.name), ("description", nullable .str v.description), ("type", v.type.toJson),
  ("defaultValue", nullable .str v.default)]

end InputValue

namespace EnumValue

def ofTree? (t : Tree) : Option EnumValue := do
  let f ← t.record? ["name", "description", "isDeprecated"] 1
  return {
    name := ← Tree.required f "name" text?
    description := ← optional f "description" text?
    deprecated := ← defaulted f "isDeprecated" false bool? }

def toJson (v : EnumValue) : Json := .obj [
  ("name", .str v.name), ("description", nullable .str v.description),
  ("isDeprecated", .bool v.deprecated)]

end EnumValue

namespace Field

def ofTree? (t : Tree) : Option Field := do
  let f ← t.record?
    ["name", "description", "args", "type", "isDeprecated", "deprecationReason"] 4
  return {
    name := ← Tree.required f "name" text?
    description := ← optional f "description" text?
    arguments := ← defaulted f "args" [] (list? InputValue.ofTree?)
    type := ← Tree.required f "type" TypeRef.ofTree?
    deprecated := ← defaulted f "isDeprecated" false bool?
    deprecationReason := ← optional f "deprecationReason" text? }

def toJson (f : Field) : Json := .obj [
  ("name", .str f.name), ("description", nullable .str f.description),
  ("args", .arr (f.arguments.map InputValue.toJson)), ("type", f.type.toJson),
  ("isDeprecated", .bool f.deprecated), ("deprecationReason", nullable .str f.deprecationReason)]

end Field

namespace FullType

def allFields (t : FullType) : List Field := t.fields.getD []
def allInputs (t : FullType) : List InputValue := t.inputFields.getD []
def allValues (t : FullType) : List EnumValue := t.values.getD []

/-- Names that begin with two underscores belong to the language itself. -/
def isReserved (name : String) : Bool := ['_', '_'].isPrefixOf name.toList

def ofTree? (t : Tree) : Option FullType := do
  let f ← t.record? ["kind", "name", "description", "fields", "inputFields", "interfaces",
    "enumValues", "possibleTypes"] 2
  return {
    kind := ← Tree.required f "kind" TypeKind.ofTree?
    name := ← optional f "name" text?
    description := ← optional f "description" text?
    fields := ← optional f "fields" (list? Field.ofTree?)
    inputFields := ← optional f "inputFields" (list? InputValue.ofTree?)
    interfaces := ← optional f "interfaces" (list? TypeRef.ofTree?)
    values := ← optional f "enumValues" (list? EnumValue.ofTree?)
    possibleTypes := ← optional f "possibleTypes" (list? TypeRef.ofTree?) }

def toJson (t : FullType) : Json :=
  let list {α : Type} (write : α → Json) : Option (List α) → Json :=
    nullable fun xs => .arr (xs.map write)
  .obj [
    ("kind", .str t.kind.text), ("name", nullable .str t.name),
    ("description", nullable .str t.description), ("fields", list Field.toJson t.fields),
    ("inputFields", list InputValue.toJson t.inputFields),
    ("interfaces", list TypeRef.toJson t.interfaces),
    ("enumValues", list EnumValue.toJson t.values),
    ("possibleTypes", list TypeRef.toJson t.possibleTypes)]

end FullType

namespace Introspection

/-- The type of a name. -/
def type? (i : Introspection) (name : String) : Option FullType :=
  i.types.find? (·.name = some name)

def named? (t : Tree) : Option String := do
  Tree.required (← t.record? ["name"]) "name" text?

def ofTree? (t : Tree) : Option Introspection := do
  let f ← t.record? ["queryType", "mutationType", "subscriptionType", "types"] 1
  return {
    query := ← optional f "queryType" named?
    mutation := ← optional f "mutationType" named?
    subscription := ← optional f "subscriptionType" named?
    types := ← defaulted f "types" [] (list? FullType.ofTree?) }

def ofData? (t : Tree) : Option Introspection := do
  Tree.required (← t.record? ["__schema"]) "__schema" ofTree?

def toJson (i : Introspection) : Json :=
  let named : Option String → Json := nullable fun name => .obj [("name", .str name)]
  .obj [
    ("queryType", named i.query), ("mutationType", named i.mutation),
    ("subscriptionType", named i.subscription), ("types", .arr (i.types.map FullType.toJson))]

end Introspection
end ApiAtlas.Graph
