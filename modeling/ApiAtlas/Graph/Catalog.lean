import ApiAtlas.Graph.Introspection
import ApiAtlas.Graph.Query

/-!
Catalogs: what one graph endpoint offers, by operation, with an example query for each. `check`
compares a query with a catalog before it is sent; it looks at the fields on the root type and their
arguments.
-/
namespace ApiAtlas.Graph

/-- The number of fields listed for an operation. -/
def listedFields : Nat := 10

def exampleFields : Nat := 3

structure Argument where
  name : String
  type : String
  description : Option String := none
  required : Bool
  default : Option String := none

structure RootOperation where
  kind : OperationKind
  name : String
  description : Option String := none
  returns : String
  arguments : List Argument := []
  requiredArguments : List String := []
  /-- Some field names of the type that is returned, sorted. -/
  availableFields : List String := []
  sample : String
  deprecated : Bool := false

structure TypeSummary where
  kind : TypeKind
  description : Option String := none
  fields : List String := []
  values : List String := []

structure Catalog where
  endpoint : String
  queries : List RootOperation := []
  mutations : List RootOperation := []
  subscriptions : List RootOperation := []
  /-- The types worth describing. -/
  types : Table TypeSummary := []
  /-- The names of the root types that the schema declares. -/
  roots : List (OperationKind × String) := []

/-- What is wrong with a query, given a catalog. -/
inductive CheckProblem where
  | selection (e : SelectionError)
  | unsupported (kind : OperationKind)
  | unknownField (name root : String)
  | unknownArgument (name root field : String)
  | missingArgument (name type field : String)
deriving DecidableEq, Repr

def CheckProblem.message : CheckProblem → String
  | .selection e => e.message
  | .unsupported kind => "schema does not support " ++ kind.text ++ " operations"
  | .unknownField name root => "field '" ++ name ++ "' doesn't exist on type '" ++ root ++ "'"
  | .unknownArgument name root field =>
    "unknown argument '" ++ name ++ "' on field '" ++ root ++ "." ++ field ++ "'"
  | .missingArgument name type field =>
    "field '" ++ field ++ "' argument '" ++ name ++ "' of type '" ++ type
      ++ "' is required but not provided"

/-- Sorts by a text, and keeps the order of equal ones. -/
def sortedBy (key : α → String) (xs : List α) : List α := xs.mergeSort fun a b => key a ≤ key b

def sorted (xs : List String) : List String := sortedBy id xs

/-- A value for an argument of a type. -/
def exampleLiteral : TypeRef → String
  | .wrapped .nonNull _ t => exampleLiteral t
  | .base .nonNull _ => "null"
  | .wrapped .list _ t => "[" ++ exampleLiteral t ++ "]"
  | .base .list _ => "[]"
  | .wrapped .inputObject _ _ | .base .inputObject _ => "\x7b\x7d"
  | t =>
    match t.baseName with
    | "String" => "\"example\""
    | "Int" => "123"
    | "Float" => "123.45"
    | "Boolean" => "true"
    | "ID" => "\"id123\""
    | _ => "null"

namespace Field

def exampleArguments (f : Field) : List String :=
  (f.arguments.filter InputValue.isRequired).map fun a => a.name ++ ": " ++ exampleLiteral a.type

/-- Whether a field can be selected alone. -/
def isSimple (f : Field) : Bool := f.arguments.all (!·.isRequired) && f.type.baseKind.isLeaf

end Field

/-- The fields selected from a type in an example. -/
def exampleSelection (t : FullType) : String :=
  let leaves := ((t.allFields.filter Field.isSimple).map Field.name).take exampleFields
  if leaves.isEmpty then "__typename" else " ".intercalate leaves

/-- A query for a field with the arguments that must be given. -/
def exampleQuery (kind : OperationKind) (f : Field) (returned : Option FullType) : String :=
  let arguments := f.exampleArguments
  kind.text ++ " \x7b " ++ f.name
  ++ (if arguments.isEmpty then "" else "(" ++ ", ".intercalate arguments ++ ")")
  ++ (match returned with
    | some t => if t.kind.isLeaf then "" else " \x7b " ++ exampleSelection t ++ " \x7d"
    | none => "")
  ++ " \x7d"

namespace RootOperation

def ofField (i : Introspection) (kind : OperationKind) (f : Field) : RootOperation :=
  let returned := i.type? f.type.baseName
  let arguments := f.arguments.map fun a =>
    { name := a.name, type := a.type.text, description := a.description, required := a.isRequired,
      default := a.default : Argument }
  { kind
    name := f.name
    description := f.description
    returns := f.type.text
    arguments
    requiredArguments := (arguments.filter Argument.required).map Argument.name
    availableFields :=
      (sorted ((returned.map fun t => t.allFields.map Field.name).getD [])).take listedFields
    sample := exampleQuery kind f returned
    deprecated := f.deprecated }

def argument? (o : RootOperation) (name : String) : Option Argument :=
  o.arguments.find? (·.name = name)

def toJson (o : RootOperation) : Json :=
  let argument (a : Argument) : Json := .obj <|
    Member.always "name" (.str a.name) ++ Member.always "type" (.str a.type)
    ++ Member.option "description" .str a.description ++ Member.always "required" (.bool a.required)
    ++ Member.option "default_value" .str a.default
  .obj <|
    Member.always "kind" (.str o.kind.text) ++ Member.always "name" (.str o.name)
    ++ Member.option "description" .str o.description ++ Member.always "returns" (.str o.returns)
    ++ Member.always "arguments" (.arr (o.arguments.map argument))
    ++ Member.always "required_args" (.strs o.requiredArguments)
    ++ Member.always "available_fields" (.strs o.availableFields)
    ++ Member.always "example" (.str o.sample) ++ Member.always "deprecated" (.bool o.deprecated)

end RootOperation

namespace TypeSummary

/-- A type is described if it has a description, several fields or some values. Scalars and types of
the language itself never are. -/
def isNotable (t : FullType) : Bool :=
  match t.name with
  | none => false
  | some name =>
    !FullType.isReserved name && t.kind != .scalar &&
      (t.description.any (!·.isEmpty) || decide (1 < t.allFields.length + t.allInputs.length)
        || !t.allValues.isEmpty)

def ofType (t : FullType) : TypeSummary where
  kind := t.kind
  description := t.description
  fields := sorted <|
    match t.kind with
    | .object | .interface => t.allFields.map Field.name
    | .inputObject => t.allInputs.map InputValue.name
    | _ => []
  values := sorted (t.allValues.map EnumValue.name)

def toJson (t : TypeSummary) : Json := .obj <|
  Member.always "kind" (.str t.kind.text) ++ Member.option "description" .str t.description
  ++ Member.list "fields" .str t.fields ++ Member.list "enum_values" .str t.values

end TypeSummary

namespace Catalog

def operationsOf (i : Introspection) (kind : OperationKind) (root : Option String) :
    List RootOperation :=
  match root.bind i.type? with
  | some t => sortedBy RootOperation.name <|
      (t.allFields.filter (!FullType.isReserved ·.name)).map (RootOperation.ofField i kind)
  | none => []

def build (endpoint : String) (i : Introspection) : Catalog where
  endpoint
  queries := operationsOf i .query i.query
  mutations := operationsOf i .mutation i.mutation
  subscriptions := operationsOf i .subscription i.subscription
  types := Table.ofPairs <|
    (sortedBy (·.name.getD "") (i.types.filter TypeSummary.isNotable)).map fun t =>
      (t.name.getD "", .ofType t)
  roots :=
    ((i.query.map fun n => (OperationKind.query, n)).toList
      ++ (i.mutation.map fun n => (OperationKind.mutation, n)).toList
      ++ (i.subscription.map fun n => (OperationKind.subscription, n)).toList)

def operations (c : Catalog) : OperationKind → List RootOperation
  | .query => c.queries
  | .mutation => c.mutations
  | .subscription => c.subscriptions

def find? (c : Catalog) (kind : OperationKind) (name : String) : Option RootOperation :=
  (c.operations kind).find? (·.name = name)

def size (c : Catalog) : Nat := c.queries.length + c.mutations.length + c.subscriptions.length

/-- The problems of a field on a root type. Names of the language itself are always known. -/
def fieldProblems (c : Catalog) (kind : OperationKind) (root : String) (f : RootField) :
    List CheckProblem :=
  if FullType.isReserved f.name then []
  else match c.find? kind f.name with
    | none => [.unknownField f.name root]
    | some o =>
      ((f.arguments.filter fun a => (o.argument? a).isNone).map fun a =>
        .unknownArgument a root f.name)
      ++ (o.requiredArguments.filter fun a => !f.arguments.contains a).map fun a =>
        .missingArgument a (((o.argument? a).map Argument.type).getD "?") f.name

/-- The problems of the operation that a query would run. -/
def check (c : Catalog) (q : Query) (name : Option String) : List CheckProblem :=
  match q.select name with
  | .error e => [.selection e]
  | .ok o =>
    match c.roots.lookup o.kind with
    | none => [.unsupported o.kind]
    | some root => o.fields.flatMap (c.fieldProblems o.kind root)

def toJson (c : Catalog) : Json := .obj <|
  Member.always "endpoint" (.str c.endpoint)
  ++ Member.always "queries" (.arr (c.queries.map RootOperation.toJson))
  ++ Member.always "mutations" (.arr (c.mutations.map RootOperation.toJson))
  ++ Member.list "subscriptions" RootOperation.toJson c.subscriptions
  ++ Member.always "types" (.obj (c.types.map fun (k, t) => (k, t.toJson)))

def overview (c : Catalog) : String :=
  let plural (n : Nat) : String := if n = 1 then "" else "s"
  c.endpoint ++ " exposes " ++ toString c.queries.length ++ " quer"
  ++ (if c.queries.length = 1 then "y" else "ies") ++ ", "
  ++ toString c.mutations.length ++ " mutation" ++ plural c.mutations.length ++ " and "
  ++ toString c.subscriptions.length ++ " subscription" ++ plural c.subscriptions.length
  ++ ". Select only the fields you need; required arguments must be supplied inline or as variables."

end Catalog
end ApiAtlas.Graph
