import ApiAtlas.Document.Schema

/-!
How callers of an API prove who they are: schemes by name, and requirements that list schemes with
the scopes that are asked of them.
-/
namespace ApiAtlas

inductive SchemeType where
  | apiKey | http | oAuth2 | openIdConnect | mutualTLS
deriving DecidableEq, Repr

namespace SchemeType

def keyword : SchemeType → String
  | .apiKey => "apiKey"
  | .http => "http"
  | .oAuth2 => "oAuth2"
  | .openIdConnect => "openIdConnect"
  | .mutualTLS => "mutualTLS"

def text : SchemeType → String
  | .oAuth2 => "oauth2"
  | t => t.keyword

def all : List SchemeType := [.apiKey, .http, .oAuth2, .openIdConnect, .mutualTLS]

def ofKeyword? (s : String) : Option SchemeType := all.find? (·.keyword = s)

end SchemeType

inductive KeyLocation where
  | query | header | cookie
deriving DecidableEq, Repr

namespace KeyLocation

def text : KeyLocation → String
  | .query => "query"
  | .header => "header"
  | .cookie => "cookie"

def all : List KeyLocation := [.query, .header, .cookie]

def ofText? (s : String) : Option KeyLocation := all.find? (·.text = s)

end KeyLocation

structure OAuthFlow where
  authorizationUrl : Option String := none
  tokenUrl : Option String := none
  refreshUrl : Option String := none
  scopes : Table String := []

structure OAuthFlows where
  implicit : Option OAuthFlow := none
  password : Option OAuthFlow := none
  clientCredentials : Option OAuthFlow := none
  authorizationCode : Option OAuthFlow := none

structure SecurityScheme where
  type : SchemeType
  description : Option String := none
  name : Option String := none
  location : Option KeyLocation := none
  scheme : Option String := none
  bearerFormat : Option String := none
  flows : Option OAuthFlows := none
  openIdConnectUrl : Option String := none

/-- Schemes that are needed together, each with its scopes. -/
abbrev SecurityRequirement := Table (List String)

open ApiAtlas.Tree Member

namespace OAuthFlow

def read? (t : Tree) : Option OAuthFlow := do
  let f ← t.record? ["authorizationUrl", "tokenUrl", "refreshUrl", "scopes"] 3
  return {
    authorizationUrl := ← optional f "authorizationUrl" text?
    tokenUrl := ← optional f "tokenUrl" text?
    refreshUrl := ← optional f "refreshUrl" text?
    scopes := ← defaulted f "scopes" [] (table? text?) }

def toJson (o : OAuthFlow) : Json := .obj <|
  option "authorizationUrl" .str o.authorizationUrl
  ++ option "tokenUrl" .str o.tokenUrl
  ++ option "refreshUrl" .str o.refreshUrl
  ++ always "scopes" (.obj (o.scopes.map fun (k, v) => (k, .str v)))

end OAuthFlow

namespace OAuthFlows

def read? (t : Tree) : Option OAuthFlows := do
  let f ← t.record? ["implicit", "password", "clientCredentials", "authorizationCode"]
  return {
    implicit := ← optional f "implicit" OAuthFlow.read?
    password := ← optional f "password" OAuthFlow.read?
    clientCredentials := ← optional f "clientCredentials" OAuthFlow.read?
    authorizationCode := ← optional f "authorizationCode" OAuthFlow.read? }

def toJson (o : OAuthFlows) : Json := .obj <|
  option "implicit" OAuthFlow.toJson o.implicit
  ++ option "password" OAuthFlow.toJson o.password
  ++ option "clientCredentials" OAuthFlow.toJson o.clientCredentials
  ++ option "authorizationCode" OAuthFlow.toJson o.authorizationCode

end OAuthFlows

namespace SecurityScheme

def type? (t : Tree) : Option SchemeType :=
  (oneOf? (SchemeType.all.map SchemeType.keyword) t).bind SchemeType.ofKeyword?

def location? (t : Tree) : Option KeyLocation :=
  (oneOf? (KeyLocation.all.map KeyLocation.text) t).bind KeyLocation.ofText?

def read? (t : Tree) : Option SecurityScheme := do
  let f ← t.record? ["type", "description", "name", "in", "scheme", "bearerFormat", "flows",
    "openIdConnectUrl"]
  return {
    type := ← Tree.required f "type" type?
    description := ← optional f "description" text?
    name := ← optional f "name" text?
    location := ← optional f "in" location?
    scheme := ← optional f "scheme" text?
    bearerFormat := ← optional f "bearerFormat" text?
    flows := ← optional f "flows" OAuthFlows.read?
    openIdConnectUrl := ← optional f "openIdConnectUrl" text? }

def toJson (s : SecurityScheme) : Json := .obj <|
  always "type" (.str s.type.keyword)
  ++ option "description" .str s.description
  ++ option "name" .str s.name
  ++ option "in" (fun l => .str l.text) s.location
  ++ option "scheme" .str s.scheme
  ++ option "bearerFormat" .str s.bearerFormat
  ++ option "flows" OAuthFlows.toJson s.flows
  ++ option "openIdConnectUrl" .str s.openIdConnectUrl

/-- The scheme in one line, such as `http bearer (JWT)` or `apiKey in header X-Key`. -/
def summary (s : SecurityScheme) : String :=
  s.type.text
  ++ (match s.scheme with | some name => " " ++ name | none => "")
  ++ (match s.bearerFormat with | some format => " (" ++ format ++ ")" | none => "")
  ++ (match s.location, s.name with
    | some l, some name => " in " ++ l.text ++ " " ++ name
    | _, _ => "")

end SecurityScheme

namespace SecurityRequirement

def read? (t : Tree) : Option SecurityRequirement := table? (list? text?) t

def toJson (r : SecurityRequirement) : Json := .obj (r.map fun (k, v) => (k, .strs v))

end SecurityRequirement
end ApiAtlas
