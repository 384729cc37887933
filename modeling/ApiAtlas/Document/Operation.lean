import ApiAtlas.Document.Content
import ApiAtlas.Document.Security
import ApiAtlas.Document.Server

/-!
Operations and the path items that hold them, one for each verb at most. Operations are listed in the
fixed order of `Verb.all`, whatever the order in a document.
-/
namespace ApiAtlas

inductive Verb where
  | get | put | post | delete | options | head | patch | trace
deriving DecidableEq, Repr

namespace Verb

def text : Verb → String
  | .get => "GET"
  | .put => "PUT"
  | .post => "POST"
  | .delete => "DELETE"
  | .options => "OPTIONS"
  | .head => "HEAD"
  | .patch => "PATCH"
  | .trace => "TRACE"

def all : List Verb := [.get, .put, .post, .delete, .options, .head, .patch, .trace]

end Verb

structure RequestBody where
  description : Option String := none
  content : Table MediaType := []
  required : Bool := false

structure Response where
  description : String := ""
  content : Table MediaType := []
  headers : Table (RefOr Header) := []

structure Operation where
  operationId : Option String := none
  summary : Option String := none
  description : Option String := none
  tags : List String := []
  parameters : List (RefOr Parameter) := []
  requestBody : Option (RefOr RequestBody) := none
  responses : Table (RefOr Response) := []
  deprecated : Option Bool := none
  /-- No list takes the requirements of the document; an empty one asks for nothing. -/
  security : Option (List SecurityRequirement) := none
  servers : List Server := []

structure PathItem where
  summary : Option String := none
  description : Option String := none
  parameters : List (RefOr Parameter) := []
  servers : List Server := []
  get : Option Operation := none
  post : Option Operation := none
  put : Option Operation := none
  delete : Option Operation := none
  patch : Option Operation := none
  options : Option Operation := none
  head : Option Operation := none
  trace : Option Operation := none

open ApiAtlas.Tree Member

namespace RequestBody

def ofTree? (t : Tree) : Option RequestBody := do
  let f ← t.record? ["description", "content", "required"] 1
  return {
    description := ← optional f "description" text?
    content := ← defaulted f "content" [] (table? MediaType.ofTree?)
    required := ← defaulted f "required" false bool? }

def toJson (b : RequestBody) : Json := .obj <|
  option "description" .str b.description
  ++ always "content" (.obj (b.content.map fun (k, m) => (k, m.toJson)))
  ++ always "required" (.bool b.required)

end RequestBody

namespace Response

def ofTree? (t : Tree) : Option Response := do
  let f ← t.record? ["description", "content", "headers"] 0
  return {
    description := ← defaulted f "description" "" text?
    content := ← defaulted f "content" [] (table? MediaType.ofTree?)
    headers := ← defaulted f "headers" [] (table? (RefOr.ofTree? Header.ofTree?)) }

def toJson (r : Response) : Json := .obj <|
  always "description" (.str r.description)
  ++ table "content" MediaType.toJson r.content
  ++ table "headers" (RefOr.toJson Header.toJson) r.headers

end Response

namespace Operation

def fieldNames : List String :=
  ["operationId", "summary", "description", "tags", "parameters", "requestBody", "responses",
    "deprecated", "security", "servers"]

def read? (t : Tree) : Option Operation := do
  let f ← t.record? fieldNames 9
  return {
    operationId := ← optional f "operationId" text?
    summary := ← optional f "summary" text?
    description := ← optional f "description" text?
    tags := ← defaulted f "tags" [] (list? text?)
    parameters := ← defaulted f "parameters" [] (list? (RefOr.read? Parameter.ofTree?))
    requestBody := ← optional f "requestBody" (RefOr.read? RequestBody.ofTree?)
    responses := ← defaulted f "responses" [] (table? (RefOr.read? Response.ofTree?))
    deprecated := ← optional f "deprecated" bool?
    security := ← optional f "security" (list? SecurityRequirement.read?)
    servers := ← defaulted f "servers" [] (list? Server.read?) }

def toJson (o : Operation) : Json := .obj <|
  option "operationId" .str o.operationId
  ++ option "summary" .str o.summary
  ++ option "description" .str o.description
  ++ list "tags" .str o.tags
  ++ list "parameters" (RefOr.toJson Parameter.toJson) o.parameters
  ++ option "requestBody" (RefOr.toJson RequestBody.toJson) o.requestBody
  ++ table "responses" (RefOr.toJson Response.toJson) o.responses
  ++ option "deprecated" .bool o.deprecated
  ++ option "security" (fun rs => .arr (rs.map SecurityRequirement.toJson)) o.security
  ++ list "servers" Server.toJson o.servers

end Operation

namespace PathItem

def fieldNames : List String :=
  ["summary", "description", "parameters", "servers", "get", "post", "put", "delete", "patch",
    "options", "head", "trace"]

def operation? (item : PathItem) : Verb → Option Operation
  | .get => item.get
  | .put => item.put
  | .post => item.post
  | .delete => item.delete
  | .options => item.options
  | .head => item.head
  | .patch => item.patch
  | .trace => item.trace

def operations (item : PathItem) : List (Verb × Operation) :=
  Verb.all.filterMap fun v => (item.operation? v).map fun o => (v, o)

def read? (t : Tree) : Option PathItem := do
  let f ← t.record? fieldNames
  let verb (name : String) := optional f name Operation.read?
  return {
    summary := ← optional f "summary" text?
    description := ← optional f "description" text?
    parameters := ← defaulted f "parameters" [] (list? (RefOr.read? Parameter.ofTree?))
    servers := ← defaulted f "servers" [] (list? Server.read?)
    get := ← verb "get"
    post := ← verb "post"
    put := ← verb "put"
    delete := ← verb "delete"
    patch := ← verb "patch"
    options := ← verb "options"
    head := ← verb "head"
    trace := ← verb "trace" }

def toJson (p : PathItem) : Json := .obj <|
  option "summary" .str p.summary
  ++ option "description" .str p.description
  ++ list "parameters" (RefOr.toJson Parameter.toJson) p.parameters
  ++ list "servers" Server.toJson p.servers
  ++ option "get" Operation.toJson p.get
  ++ option "post" Operation.toJson p.post
  ++ option "put" Operation.toJson p.put
  ++ option "delete" Operation.toJson p.delete
  ++ option "patch" Operation.toJson p.patch
  ++ option "options" Operation.toJson p.options
  ++ option "head" Operation.toJson p.head
  ++ option "trace" Operation.toJson p.trace

end PathItem
end ApiAtlas
