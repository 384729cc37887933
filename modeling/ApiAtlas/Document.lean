import ApiAtlas.Document.Operation

/-!
Descriptions of APIs: general facts, paths with their operations, and components that references point
to. `Document.ofTree?` reads one and `Document.toJson` writes it back.
-/
namespace ApiAtlas

structure Contact where
  name : Option String := none
  url : Option String := none
  email : Option String := none

structure License where
  name : String
  url : Option String := none

structure Info where
  title : String := ""
  description : Option String := none
  version : String := ""
  termsOfService : Option String := none
  contact : Option Contact := none
  license : Option License := none

structure Tag where
  name : String
  description : Option String := none

structure Components where
  schemas : Table SchemaRef := []
  responses : Table (RefOr Response) := []
  parameters : Table (RefOr Parameter) := []
  examples : Table (RefOr Example) := []
  requestBodies : Table (RefOr RequestBody) := []
  headers : Table (RefOr Header) := []
  securitySchemes : Table SecurityScheme := []

structure Document where
  openapi : String := ""
  info : Info := {}
  servers : List Server := []
  paths : Table PathItem := []
  webhooks : Table PathItem := []
  components : Option Components := none
  tags : List Tag := []
  security : Option (List SecurityRequirement) := none

open ApiAtlas.Tree Member

namespace Contact

def read? (t : Tree) : Option Contact := do
  let f ← t.record? ["name", "url", "email"]
  return {
    name := ← optional f "name" text?
    url := ← optional f "url" text?
    email := ← optional f "email" text? }

def toJson (c : Contact) : Json := .obj <|
  option "name" .str c.name ++ option "url" .str c.url ++ option "email" .str c.email

end Contact

namespace License

def read? (t : Tree) : Option License := do
  let f ← t.record? ["name", "url"]
  return { name := ← Tree.required f "name" text?, url := ← optional f "url" text? }

def toJson (l : License) : Json := .obj <| always "name" (.str l.name) ++ option "url" .str l.url

end License

namespace Info

def read? (t : Tree) : Option Info := do
  let f ← t.record? ["title", "description", "version", "termsOfService", "contact", "license"]
  return {
    title := ← defaulted f "title" "" text?
    description := ← optional f "description" text?
    version := ← defaulted f "version" "" text?
    termsOfService := ← optional f "termsOfService" text?
    contact := ← optional f "contact" Contact.read?
    license := ← optional f "license" License.read? }

def toJson (i : Info) : Json := .obj <|
  always "title" (.str i.title)
  ++ option "description" .str i.description
  ++ always "version" (.str i.version)
  ++ option "termsOfService" .str i.termsOfService
  ++ option "contact" Contact.toJson i.contact
  ++ option "license" License.toJson i.license

end Info

namespace Tag

def read? (t : Tree) : Option Tag := do
  let f ← t.record? ["name", "description"]
  return { name := ← Tree.required f "name" text?, description := ← optional f "description" text? }

def toJson (t : Tag) : Json := .obj <|
  always "name" (.str t.name) ++ option "description" .str t.description

end Tag

namespace Components

def read? (t : Tree) : Option Components := do
  let f ← t.record? ["schemas", "responses", "parameters", "examples", "requestBodies", "headers",
    "securitySchemes"] 0
  return {
    schemas := ← defaulted f "schemas" [] (table? SchemaRef.read?)
    responses := ← defaulted f "responses" [] (table? (RefOr.read? Response.ofTree?))
    parameters := ← defaulted f "parameters" [] (table? (RefOr.read? Parameter.ofTree?))
    examples := ← defaulted f "examples" [] (table? (RefOr.read? Example.ofTree?))
    requestBodies := ← defaulted f "requestBodies" [] (table? (RefOr.read? RequestBody.ofTree?))
    headers := ← defaulted f "headers" [] (table? (RefOr.read? Header.ofTree?))
    securitySchemes := ← defaulted f "securitySchemes" [] (table? SecurityScheme.read?) }

def toJson (c : Components) : Json := .obj <|
  table "schemas" SchemaRef.toJson c.schemas
  ++ table "responses" (RefOr.toJson Response.toJson) c.responses
  ++ table "parameters" (RefOr.toJson Parameter.toJson) c.parameters
  ++ table "examples" (RefOr.toJson Example.toJson) c.examples
  ++ table "requestBodies" (RefOr.toJson RequestBody.toJson) c.requestBodies
  ++ table "headers" (RefOr.toJson Header.toJson) c.headers
  ++ table "securitySchemes" SecurityScheme.toJson c.securitySchemes

end Components

namespace Document

def fieldNames : List String :=
  ["openapi", "info", "servers", "paths", "webhooks", "components", "tags", "security"]

def ofTree? (t : Tree) : Option Document := do
  let f ← t.record? fieldNames
  return {
    openapi := ← defaulted f "openapi" "" text?
    info := ← defaulted f "info" {} Info.read?
    servers := ← defaulted f "servers" [] (list? Server.read?)
    paths := ← defaulted f "paths" [] (table? PathItem.read?)
    webhooks := ← defaulted f "webhooks" [] (table? PathItem.read?)
    components := ← optional f "components" Components.read?
    tags := ← defaulted f "tags" [] (list? Tag.read?)
    security := ← optional f "security" (list? SecurityRequirement.read?) }

def toJson (d : Document) : Json := .obj <|
  always "openapi" (.str d.openapi)
  ++ always "info" d.info.toJson
  ++ list "servers" Server.toJson d.servers
  ++ table "paths" PathItem.toJson d.paths
  ++ table "webhooks" PathItem.toJson d.webhooks
  ++ option "components" Components.toJson d.components
  ++ list "tags" Tag.toJson d.tags
  ++ option "security" (fun rs => .arr (rs.map SecurityRequirement.toJson)) d.security

end Document
end ApiAtlas
