import ApiAtlas.Explorer
import ApiAtlas.Graph.Failure
import ApiAtlas.Json.Reader

/-!
Explorers of graph endpoints. The catalog of an endpoint is made from its answer to one fixed query and
kept for a while. A query is sent only if it can be read and names its operation, and, while a catalog
is kept, only if the catalog finds no problem with it.
-/
namespace ApiAtlas.Graph

/-- A wrapped type, some levels deep, from a level of indentation on. -/
def nestedTypeLines (indent : Nat) : Nat → List String
  | 0 => []
  | levels + 1 =>
    let blanks := String.ofList (List.replicate indent ' ')
    [blanks ++ "ofType \x7b", blanks ++ "  kind", blanks ++ "  name"]
    ++ nestedTypeLines (indent + 2) levels ++ [blanks ++ "\x7d"]

def introspectionLines : List String := [
  "",
  "query IntrospectionQuery \x7b",
  "  __schema \x7b",
  "    queryType \x7b name \x7d",
  "    mutationType \x7b name \x7d",
  "    subscriptionType \x7b name \x7d",
  "    types \x7b ...FullType \x7d",
  "  \x7d",
  "\x7d",
  "",
  "fragment FullType on __Type \x7b",
  "  kind",
  "  name",
  "  description",
  "  fields(includeDeprecated: true) \x7b",
  "    name",
  "    description",
  "    args \x7b ...InputValue \x7d",
  "    type \x7b ...TypeRef \x7d",
  "    isDeprecated",
  "    deprecationReason",
  "  \x7d",
  "  inputFields \x7b ...InputValue \x7d",
  "  interfaces \x7b ...TypeRef \x7d",
  "  enumValues(includeDeprecated: true) \x7b",
  "    name",
  "    description",
  "    isDeprecated",
  "    deprecationReason",
  "  \x7d",
  "  possibleTypes \x7b ...TypeRef \x7d",
  "\x7d",
  "",
  "fragment InputValue on __InputValue \x7b",
  "  name",
  "  description",
  "  type \x7b ...TypeRef \x7d",
  "  defaultValue",
  "\x7d",
  "",
  "fragment TypeRef on __Type \x7b",
  "  kind",
  "  name"]
  ++ nestedTypeLines 2 7 ++ ["\x7d"]

def introspectionQuery : String := String.join (introspectionLines.map (· ++ "\n"))

/-- What is sent to an endpoint. -/
structure Call where
  query : String
  vars : Option (Table Json) := none
  operationName : Option String := none

namespace Call

def toJson (c : Call) : Json := .obj <|
  Member.always "query" (.str c.query) ++ Member.option "variables" .obj c.vars
  ++ Member.option "operationName" .str c.operationName

def introspection : Call := { query := introspectionQuery, operationName := "IntrospectionQuery" }

def request (c : Call) (client : Client) (endpoint : String) : Request :=
  client.request "POST" endpoint
    [("content-type", "application/json"), ("accept", "application/json")] (some c.toJson)

/-- The response in an answer. -/
def receive (endpoint : String) : Except FetchError (List Char) → Except Failure Response
  | .error e => .error (.fetch e)
  | .ok bytes =>
    match (Json.readTree? bytes).bind Response.ofTree? with
    | some r => .ok r
    | none => .error (.decode endpoint)

def send (c : Call) (client : Client) (net : Network) (endpoint : String) :
    Except Failure Response :=
  receive endpoint (client.send net (c.request client endpoint))

end Call

namespace Introspection

def ofResponse (r : Response) : Except IntrospectionFailure Introspection :=
  if r.hasErrors then .error (.reported r.summary)
  else if (r.data.member? "__schema").isNone then .error .noSchema
  else match ofData? (.ofJson r.data) with
    | some i => .ok i
    | none => .error .unexpectedShape

def fetch (client : Client) (net : Network) (endpoint : String) : Except Failure Introspection := do
  let r ← Call.introspection.send client net endpoint
  match ofResponse r with
  | .ok i => .ok i
  | .error e => .error (.introspection e)

end Introspection

structure Explorer where
  client : Client
  cache : Cache Catalog

namespace Explorer

def ofConfig (c : Config) : Except FetchError Explorer := do
  return { client := ← Client.ofConfig c.fetch, cache := c.cache.newCache }

/-- Keeps the catalog of an endpoint, if the clock goes that far. -/
def keep (x : Explorer) (now : Nat) (endpoint : String) (c : Catalog) :
    Except Failure Catalog × Explorer :=
  let (stored, cache) := x.cache.trySetFor now endpoint c x.cache.ttl
  (if stored then .ok c else .error .clock, { x with cache })

/-- The catalog of an endpoint. -/
def discover (x : Explorer) (net : Network) (now : Nat) (endpoint : String) :
    Except Failure Catalog × Explorer :=
  match x.cache.get? now endpoint with
  | some c => (.ok c, x)
  | none =>
    match Introspection.fetch x.client net endpoint with
    | .error e => (.error e, x)
    | .ok i => x.keep now endpoint (.build endpoint i)

/-- The problems of a query, found with the catalog of the endpoint if it is kept. -/
def problems (x : Explorer) (now : Nat) (endpoint : String) (q : Query) (name : Option String) :
    List CheckProblem :=
  match x.cache.get? now endpoint with
  | some c => c.check q name
  | none =>
    match q.select name with
    | .ok _ => []
    | .error e => [.selection e]

/-- The call for a query that passes all checks. -/
def prepare (x : Explorer) (now : Nat) (endpoint query : String)
    (vars : Option (Table Json)) (name : Option String) : Except Failure Call :=
  match Query.read query with
  | .error e => .error (.malformed e)
  | .ok q =>
    match x.problems now endpoint q name with
    | [] => .ok { query, vars, operationName := name }
    | problems => .error (.rejected problems)

/-- Checks a query and sends it in the way that is given. -/
def executeBy [Monad m] (post : Request → m (Except FetchError (List Char))) (now : Nat)
    (endpoint query : String) (vars : Option (Table Json)) (name : Option String) :
    StateT Explorer m (Except Failure Response) := do
  let x ← get
  match x.prepare now endpoint query vars name with
  | .error e => return .error e
  | .ok call =>
    let answer ← post (call.request x.client endpoint)
    return Call.receive endpoint answer

/-- Checks a query and sends it over a network. -/
def execute (x : Explorer) (net : Network) (now : Nat) (endpoint query : String)
    (vars : Option (Table Json)) (name : Option String) : Except Failure Response :=
  let post (r : Request) : Id (Except FetchError (List Char)) := pure (x.client.send net r)
  ((executeBy post now endpoint query vars name).run x).run.1

def invalidate (x : Explorer) (endpoint : String) : Bool × Explorer :=
  (x.cache.has endpoint, { x with cache := x.cache.invalidate endpoint })

end Explorer
end ApiAtlas.Graph
