import ApiAtlas.Document
import ApiAtlas.Operation.Name
import ApiAtlas.Shape.Lower

/-!
Endpoints: operations as a caller sees them. What a document says in several places about an operation
stands together here: parameters of path item and operation by location, the preferred body, the
declared outcomes, the schemes that apply and the addresses to call. `Endpoint.ofOperation` collects
it from a resolved document.
-/
namespace ApiAtlas

structure NamedExample where
  name : String
  summary : Option String := none
  description : Option String := none
  value : Json

/-- A parameter of an endpoint. -/
structure Input where
  name : String
  location : Location
  description : Option String := none
  required : Bool
  deprecated : Bool := false
  shape : Shape
  sample : Option Json := none
  examples : List NamedExample := []

/-- The request body of an endpoint. -/
structure Payload where
  description : Option String := none
  required : Bool
  contentTypes : List String := []
  shape : Option Shape := none
  examples : List NamedExample := []

structure OutcomeHeader where
  description : Option String := none
  required : Bool
  shape : Option Shape := none

/-- What an endpoint answers with a status. -/
structure Outcome where
  description : String
  contentTypes : List String := []
  shape : Option Shape := none
  headers : Table OutcomeHeader := []

/-- Where the schemes of an endpoint are declared. -/
inductive AuthSource where
  | operation
  | document
  /-- The operation asks for nothing, whatever the document says. -/
  | disabled
  | undeclared
deriving DecidableEq, Repr

def AuthSource.text : AuthSource → String
  | .operation => "operation"
  | .document => "document"
  | .disabled => "disabled"
  | .undeclared => "none"

structure Endpoint where
  /-- The method in upper case. -/
  method : String
  /-- The path with its parameters in braces. -/
  path : String
  operationId : Option String := none
  /-- The declared identifier, or else a name made from method and path. -/
  displayId : String
  summary : Option String := none
  description : Option String := none
  tags : List String := []
  deprecated : Bool := false
  pathInputs : List Input := []
  queryInputs : List Input := []
  headerInputs : List Input := []
  cookieInputs : List Input := []
  payload : Option Payload := none
  outcomes : Table Outcome := []
  /-- The requirements of the operation itself. -/
  security : Option (List SecurityRequirement) := none
  schemes : List String := []
  authSource : AuthSource
  serverUrls : List String := []

namespace NamedExample

/-- The examples that have a value. -/
def ofTable (table : Table (RefOr Example)) : List NamedExample :=
  table.filterMap fun (name, e) =>
    e.inline?.bind fun e => e.value.map fun value => ⟨name, e.summary, e.description, value⟩

/-- The examples of a media type; the unnamed one comes first. -/
def ofMedia (m : MediaType) : List NamedExample :=
  (m.sample.map fun value => { name := "default", value : NamedExample }).toList
    ++ ofTable m.examples

end NamedExample

namespace MediaType

/-- Whether a content type is JSON, parameters behind a semicolon apart. -/
def isJson (contentType : String) : Bool :=
  let base := trimBlanks (contentType.toList.takeWhile (· ≠ ';'))
  base == "application/json".toList || RouteName.endsWith "+json".toList base

/-- The first JSON entry, or else the first one. -/
def preferred (content : Table MediaType) : Option MediaType :=
  ((content.find? fun p => isJson p.1).or content.head?).map (·.2)

end MediaType

namespace Input

def ofParameter (p : Parameter) : Input :=
  let examples := NamedExample.ofTable p.examples
  { name := p.name
    location := p.location
    description := p.description
    required := p.required || p.location == .path
    deprecated := p.deprecated.getD false
    shape := (p.schema.map Shape.ofRef).getD .any
    sample := p.sample.or (examples.head?.map (·.value))
    examples }

end Input

namespace Payload

def ofBody (b : RequestBody) : Payload :=
  let media := MediaType.preferred b.content
  { description := b.description
    required := b.required
    contentTypes := b.content.keys
    shape := (media.bind (·.schema)).map Shape.ofRef
    examples := (media.map NamedExample.ofMedia).getD [] }

end Payload

namespace Outcome

def ofResponse (r : Response) : Outcome :=
  let media := MediaType.preferred r.content
  { description := r.description
    contentTypes := r.content.keys
    shape := (media.bind (·.schema)).map Shape.ofRef
    headers := r.headers.filterMap fun (name, h) => h.inline?.map fun h =>
      (name, ⟨h.description, h.required, h.schema.map Shape.ofRef⟩) }

end Outcome

namespace Endpoint

/-- Puts a parameter in the place of the one with its name and location, or else at the end. -/
def putParameter (p : Parameter) : List Parameter → List Parameter
  | [] => [p]
  | q :: rest =>
    if q.name = p.name ∧ q.location = p.location then p :: rest else q :: putParameter p rest

/-- The parameters of a path item and an operation; later ones replace those of the same name and
location. -/
def mergeParameters (ofItem ofOperation : List (RefOr Parameter)) : List Parameter :=
  ((ofItem ++ ofOperation).filterMap RefOr.inline?).foldl (fun out p => putParameter p out) []

/-- The schemes in a list of requirements, each once. -/
def schemeNames (requirements : List SecurityRequirement) : List String :=
  firsts (requirements.flatMap Table.keys)

/-- The schemes of an operation, given its requirements and those of the document. -/
def auth (own inherited : Option (List SecurityRequirement)) : List String × AuthSource :=
  match own, inherited with
  | some [], _ => ([], .disabled)
  | some requirements, _ => (schemeNames requirements, .operation)
  | none, some (r :: rest) => (schemeNames (r :: rest), .document)
  | none, _ => ([], .undeclared)

/-- The servers closest to an operation. -/
def servers (d : Document) (item : PathItem) (o : Operation) : List Server :=
  if !o.servers.isEmpty then o.servers else if !item.servers.isEmpty then item.servers else d.servers

def ofOperation (d : Document) (path : String) (item : PathItem) (verb : Verb) (o : Operation) :
    Endpoint :=
  let inputs := (mergeParameters item.parameters o.parameters).map Input.ofParameter
  let at_ (l : Location) := inputs.filter (·.location = l)
  let (schemes, authSource) := auth o.security d.security
  { method := verb.text
    path
    operationId := o.operationId
    displayId := o.operationId.getD (RouteName.ofRoute verb.text path)
    summary := o.summary.or item.summary
    description := o.description.or item.description
    tags := o.tags
    deprecated := o.deprecated.getD false
    pathInputs := at_ .path
    queryInputs := at_ .query
    headerInputs := at_ .header
    cookieInputs := at_ .cookie
    payload := (o.requestBody.bind RefOr.inline?).map Payload.ofBody
    outcomes := o.responses.filterMap fun (status, r) =>
      r.inline?.map fun r => (status, .ofResponse r)
    security := o.security
    schemes
    authSource
    serverUrls := (servers d item o).map Server.expandedUrl }

/-- A method and a path as one text. -/
def keyOf (method path : String) : String := Case.upperText method ++ " " ++ path

def key (e : Endpoint) : String := keyOf e.method e.path

/-- All inputs: of the path, the query, the headers and the cookies. -/
def inputs (e : Endpoint) : List Input :=
  e.pathInputs ++ e.queryInputs ++ e.headerInputs ++ e.cookieInputs

def input? (e : Endpoint) (name : String) : Option Input := e.inputs.find? (·.name = name)

def requiresAuth (e : Endpoint) : Bool := !e.schemes.isEmpty

end Endpoint

open Member

namespace NamedExample

def toJson (e : NamedExample) : Json := .obj <|
  always "name" (.str e.name) ++ option "summary" .str e.summary
  ++ option "description" .str e.description ++ always "value" e.value

end NamedExample

namespace Input

def toData (i : Input) : Data := .record <|
  Data.plain (always "name" (.str i.name) ++ always "location" (.str i.location.text)
    ++ option "description" .str i.description ++ always "required" (.bool i.required)
    ++ always "deprecated" (.bool i.deprecated))
  ++ Data.always "schema" i.shape.toData
  ++ Data.plain (option "example" id i.sample ++ list "examples" NamedExample.toJson i.examples)

end Input

namespace Payload

def toData (p : Payload) : Data := .record <|
  Data.plain (option "description" .str p.description ++ always "required" (.bool p.required)
    ++ always "content_types" (.strs p.contentTypes))
  ++ Data.option "schema" Shape.toData p.shape
  ++ Data.plain (list "examples" NamedExample.toJson p.examples)

end Payload

namespace OutcomeHeader

def toData (h : OutcomeHeader) : Data := .record <|
  Data.plain (option "description" .str h.description ++ always "required" (.bool h.required))
  ++ Data.option "schema" Shape.toData h.shape

end OutcomeHeader

namespace Outcome

def toData (o : Outcome) : Data := .record <|
  Data.plain (always "description" (.str o.description)
    ++ list "content_types" .str o.contentTypes)
  ++ Data.option "schema" Shape.toData o.shape
  ++ Data.table "headers" OutcomeHeader.toData o.headers

end Outcome
end ApiAtlas
