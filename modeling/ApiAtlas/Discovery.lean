import ApiAtlas.Discovery.Guidance
import ApiAtlas.Discovery.Index
import ApiAtlas.Document.Resolve

/-!
Discovery: what a document offers. A `Discovery` is a document whose references are resolved; the
endpoints are all its operations, in the order of paths and then of verbs.
-/
namespace ApiAtlas

structure Discovery where
  document : Document

/-- What a document offers, in one value. -/
structure Overview where
  title : String
  version : String
  description : Option String := none
  serverUrls : List String := []
  /-- The schemes, each described in one line. -/
  schemes : Table String := []
  tags : List String := []
  webhooks : List String := []
  endpoints : List Endpoint := []
  guidance : String

inductive LookupError where
  | unknownId (id : String)
  | unknownRoute (method path : String)
deriving DecidableEq, Repr

namespace LookupError

def message : LookupError → String
  | .unknownId id => "operation not found: " ++ id
  | .unknownRoute method path => "no operation declared for " ++ method ++ " " ++ path

def hint : LookupError → String
  | .unknownId _ => "Run discovery to list the operation identifiers this API declares."
  | .unknownRoute .. =>
    "Use the declared path template (e.g. /users/\x7bid\x7d), not a URL with values filled in."

end LookupError

namespace Discovery

def ofDocument (d : Document) : Except ReferenceError Discovery := do return ⟨← d.resolve⟩

def endpoints (d : Discovery) : List Endpoint :=
  d.document.paths.flatMap fun (path, item) =>
    item.operations.map fun (verb, o) => .ofOperation d.document path item verb o

def index (d : Discovery) : Index := .build d.endpoints

/-- The endpoint of a method and a path as declared. -/
def find? (d : Discovery) (method path : String) : Option Endpoint := d.index.get? method path

def find (d : Discovery) (method path : String) : Except LookupError Endpoint :=
  match d.find? method path with
  | some e => .ok e
  | none => .error (.unknownRoute (Case.upperText method) path)

/-- The endpoint with a declared identifier, or else the first one displayed under that name. -/
def findById? (d : Discovery) (id : String) : Option Endpoint :=
  (d.endpoints.find? (·.operationId = some id)).or (d.endpoints.find? (·.displayId = id))

def findById (d : Discovery) (id : String) : Except LookupError Endpoint :=
  match d.findById? id with
  | some e => .ok e
  | none => .error (.unknownId id)

def withTag (d : Discovery) (tag : String) : List Endpoint := d.index.withTag tag

/-- The endpoints whose paths contain a text. -/
def withPathPart (d : Discovery) (part : String) : List Endpoint :=
  d.endpoints.filter fun e => contains e.path part

/-- The endpoints by method and path. -/
def pathMap (d : Discovery) : Table Endpoint :=
  Table.ofPairs (d.endpoints.map fun e => (e.key, e))

def schemes (d : Discovery) : Table String :=
  match d.document.components with
  | some c => c.securitySchemes.map fun (name, s) => (name, s.summary)
  | none => []

def serverUrls (d : Discovery) : List String := d.document.servers.map Server.expandedUrl

/-- Declared tags, then the others in use, each once. -/
def tags (d : Discovery) : List String :=
  firsts (d.document.tags.map Tag.name ++ d.endpoints.flatMap Endpoint.tags)

def guidance (d : Discovery) : String :=
  let count := d.endpoints.length
  d.document.info.title ++ " exposes " ++ toString count ++ " operation"
  ++ (if count = 1 then "" else "s") ++ "."
  ++ (match d.serverUrls with
    | base :: _ => " Send requests to " ++ base ++ "."
    | [] => " No server URL is declared; supply the base URL yourself.")
  ++ (if d.schemes.isEmpty then "" else
    " Available authentication schemes: " ++ ", ".intercalate d.schemes.keys ++ ".")
  ++ " Validate a request against its operation before sending it."

def overview (d : Discovery) : Overview where
  title := d.document.info.title
  version := d.document.info.version
  description := d.document.info.description
  serverUrls := d.serverUrls
  schemes := d.schemes
  tags := d.tags
  webhooks := d.document.webhooks.keys
  endpoints := d.endpoints
  guidance := d.guidance

end Discovery

open Member

namespace Overview

/-- The overview with the endpoints listed for a tag. -/
def restrict (o : Overview) (tag : String) : Overview :=
  { o with endpoints := o.endpoints.filter (Index.lists tag) }

def toData (o : Overview) : Data := .record <|
  Data.plain (always "title" (.str o.title) ++ always "version" (.str o.version)
    ++ option "description" .str o.description ++ always "server_urls" (.strs o.serverUrls)
    ++ always "security_schemes" (.ofTexts o.schemes) ++ always "tags" (.strs o.tags)
    ++ list "webhooks" .str o.webhooks)
  ++ Data.always "operations" (.list (o.endpoints.map Endpoint.toData))
  ++ Data.plain (always "guidance" (.str o.guidance))

def toJson (o : Overview) : Json := o.toData.toJson

end Overview
end ApiAtlas
