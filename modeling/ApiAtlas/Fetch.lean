import ApiAtlas.Config
import ApiAtlas.Document.Schema
import ApiAtlas.Text.Utf8
import ApiAtlas.Url

/-!
Requests over a network. A `Network` says what becomes of each request; `Client.send` makes of that the
bytes of an answer or a `FetchError`. A client carries a time limit and headers of its own, which give
way to those of a request.
-/
namespace ApiAtlas

structure Request where
  method : String
  url : String
  /-- Names in lower case, sorted, each once. -/
  headers : List (String × String) := []
  body : Option Json := none

/-- What becomes of a request. -/
inductive Reply where
  | answered (status : Nat) (body : List Char)
  /-- The body ends before its announced length. -/
  | cutShort (status : Nat)
  /-- No answer within the time limit. -/
  | late
  /-- The server cannot be reached, or closes the connection. -/
  | unreachable

abbrev Network := Request → Reply

namespace Network

def down : Network := fun _ => .unreachable

end Network

inductive RequestProblem where
  | url (e : UrlProblem)
  | connection
deriving DecidableEq, Repr

namespace RequestProblem

/-- What fails, from the request down to its reason. -/
def causes (url : String) : RequestProblem → List String
  | .url (.badScheme u) => ["builder error for url (" ++ u ++ ")", (UrlProblem.badScheme u).message]
  | .url e => ["builder error", e.message]
  | .connection => ["error sending request for url (" ++ Url.normal url ++ ")",
      "client error (Connect)", "tcp connect error", "Network is unreachable (os error 101)"]

end RequestProblem

/-- Why a request has no answer. -/
inductive FetchError where
  | client
  | request (url : String) (problem : RequestProblem)
  | timeout (url : String) (milliseconds : Nat)
  | status (url : String) (code : Nat)
  | body (url : String)
deriving DecidableEq, Repr

/-- A span of time in seconds, or in milliseconds if it is shorter than a second. -/
def durationText (milliseconds : Nat) : String :=
  let rest := milliseconds % 1000
  let digits := (toString (1000 + rest)).toList.drop 1
  let fraction := (digits.reverse.dropWhile (· = '0')).reverse
  if milliseconds = 0 then "0ns"
  else if milliseconds < 1000 then toString milliseconds ++ "ms"
  else toString (milliseconds / 1000)
    ++ (if fraction.isEmpty then "" else "." ++ String.ofList fraction) ++ "s"

example : durationText 1500 = "1.5s" ∧ durationText 200 = "200ms" := by decide

namespace FetchError

def message : FetchError → String
  | .client => "failed to build HTTP client: builder error"
  | .request url problem =>
    "request to " ++ url ++ " failed: " ++ (problem.causes url).headD ""
  | .timeout url limit => "request to " ++ url ++ " timed out after " ++ durationText limit
  | .status url code => url ++ " returned HTTP " ++ toString code
  | .body url => "failed to read response body from " ++ url

def causes : FetchError → List String
  | .client => ["builder error", "failed to parse header value"]
  | .request url problem => problem.causes url
  | _ => []

def hint : FetchError → String
  | .client => "Check the `fetch` section of the configuration."
  | .request .. | .body _ => "Check the URL and network connectivity, then retry."
  | .timeout .. => "The server did not answer in time. Retry later or raise `fetch.timeout_secs`."
  | .status _ code =>
    if code = 401 ∨ code = 403 then
      "The document requires credentials. Add them under `fetch.headers`."
    else if code = 404 then
      "No document at this URL. Check the path, e.g. /openapi.json or /openapi.yaml."
    else if code = 429 then "Rate limited by the server. Wait before retrying."
    else if 500 ≤ code then "The server failed to serve the document. Retry later."
    else "The server rejected the request for the document."

end FetchError

namespace Header

/-- A character of a header name. -/
def isNameChar (c : Char) : Bool := c.isAlphanum || "!#$%&'*+-.^_`|~".toList.contains c

def isName (s : String) : Bool := !s.isEmpty && s.toList.all isNameChar

/-- Whether a text may be sent as a header value: no control characters but the tab. -/
def isValue (s : String) : Bool := s.toList.all fun c => c = '\t' ∨ (32 ≤ c.toNat ∧ c.toNat ≠ 127)

def lowerName (s : String) : String := String.ofList (s.toList.map Char.toLower)

end Header

/-- What all requests have in common. -/
structure Client where
  /-- The time limit in milliseconds. -/
  timeout : Nat
  headers : List (String × String) := []

namespace Client

def defaultAgent : String := "apiscout/0.3.0"

/-- Headers that are no headers are left out; the agent's name must be one. -/
def ofConfig (c : FetchConfig) : Except FetchError Client :=
  let agent := c.userAgent.getD defaultAgent
  if Header.isValue agent then
    let given := c.headers.filter fun (name, value) => Header.isName name && Header.isValue value
    .ok { timeout := c.timeout * 1000
          headers := (given.map fun (name, value) => (Header.lowerName name, value)).foldl
            (fun out h => Json.insertMember h.1 h.2 out) [("user-agent", agent)] }
  else .error .client

/-- A request with the headers of the client. -/
def request (c : Client) (method url : String) (own : List (String × String))
    (body : Option Json := none) : Request where
  method
  url
  headers := own.foldl (fun out h => Json.insertMember h.1 h.2 out) c.headers
  body

def receive (limit : Nat) (url : String) : Reply → Except FetchError (List Char)
  | .unreachable => .error (.request url .connection)
  | .late => .error (.timeout url limit)
  | .answered status body =>
    if 200 ≤ status ∧ status < 300 then .ok body else .error (.status url status)
  | .cutShort status =>
    if 200 ≤ status ∧ status < 300 then .error (.body url) else .error (.status url status)

def send (c : Client) (net : Network) (r : Request) : Except FetchError (List Char) :=
  match Url.parse r.url with
  | .error e => .error (.request r.url (.url e))
  | .ok _ => receive c.timeout r.url (net r)

theorem send_of_answered {c : Client} {net : Network} {r : Request} {status : Nat} {body : List Char}
    (addressed : (Url.parse r.url).isOk = true) (answered : net r = .answered status body)
    (success : 200 ≤ status ∧ status < 300) : c.send net r = .ok body := by
  cases parsed : Url.parse r.url with
  | error e => simp [parsed, Except.isOk, Except.toBool] at addressed
  | ok address => simp only [send, parsed, answered, receive, success, and_self, if_true]

/-- Sends a request and takes it down. -/
def sendNoting (c : Client) (net : Network) (r : Request) :
    StateM (List Request) (Except FetchError (List Char)) := do
  modify (· ++ [r])
  return c.send net r

/-- The formats asked for when a document is fetched. -/
def documentTypes : String :=
  "application/json, application/yaml;q=0.9, text/yaml;q=0.9, */*;q=0.8"

def documentRequest (c : Client) (url : String) : Request :=
  c.request "GET" url [("accept", documentTypes)]

def fetch (c : Client) (net : Network) (url : String) : Except FetchError (List Char) :=
  c.send net (c.documentRequest url)

end Client
end ApiAtlas
