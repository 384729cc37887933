import ApiAtlas.Document.Schema

/-!
Graph query documents, as far as they can be checked before they are sent: operations with their
variables and the fields they select on the root type, and the names of fragments.
-/
namespace ApiAtlas.Graph

inductive OperationKind where
  | query | mutation | subscription
deriving DecidableEq, Repr

namespace OperationKind

def text : OperationKind → String
  | .query => "query"
  | .mutation => "mutation"
  | .subscription => "subscription"

def all : List OperationKind := [.query, .mutation, .subscription]

def ofText? (s : String) : Option OperationKind := all.find? (·.text = s)

end OperationKind

structure Variable where
  name : String
  /-- The type as the schema language writes it. -/
  type : String
  /-- The source text of the default value. -/
  default : Option String := none
deriving DecidableEq, Repr

/-- A field selected on the root type, with the names of its arguments. -/
structure RootField where
  name : String
  called : Option String := none
  arguments : List String := []
deriving DecidableEq, Repr

structure OperationDefinition where
  kind : OperationKind
  name : Option String := none
  vars : List Variable := []
  fields : List RootField := []
deriving DecidableEq, Repr

structure Query where
  operations : List OperationDefinition := []
  fragments : List String := []
deriving DecidableEq, Repr

/-- Why a document does not say which operation to run. -/
inductive SelectionError where
  | unknown (name : String)
  | nameNeeded
deriving DecidableEq, Repr

def SelectionError.message : SelectionError → String
  | .unknown name => "document has no operation named '" ++ name ++ "'"
  | .nameNeeded => "an operation name is required when the document contains multiple operations"

namespace Query

/-- The operation of a name, or the only one if there is no name. -/
def select (q : Query) (name : Option String) : Except SelectionError OperationDefinition :=
  match name with
  | some name =>
    match q.operations.find? (·.name = some name) with
    | some o => .ok o
    | none => .error (.unknown name)
  | none =>
    match q.operations with
    | [o] => .ok o
    | _ => .error .nameNeeded

end Query

def Variable.toJson (v : Variable) : Json := .obj <|
  Member.always "name" (.str v.name) ++ Member.always "type_name" (.str v.type)
  ++ Member.option "default_value" .str v.default

def RootField.toJson (f : RootField) : Json := .obj <|
  Member.always "name" (.str f.name) ++ Member.option "alias" .str f.called
  ++ Member.always "arguments" (.strs f.arguments)

def OperationDefinition.toJson (o : OperationDefinition) : Json := .obj <|
  Member.always "kind" (.str o.kind.text) ++ Member.option "name" .str o.name
  ++ Member.always "variables" (.arr (o.vars.map Variable.toJson))
  ++ Member.always "fields" (.arr (o.fields.map RootField.toJson))

def Query.toJson (q : Query) : Json := .obj <|
  Member.always "operations" (.arr (q.operations.map OperationDefinition.toJson))
  ++ Member.always "fragments" (.strs q.fragments)

end ApiAtlas.Graph
