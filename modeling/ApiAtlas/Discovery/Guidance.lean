import ApiAtlas.Discovery.Endpoint
import ApiAtlas.Shape.Example
import ApiAtlas.Text.Blank

/-!
Guidance: sentences that explain how to call an endpoint, and an example call. Everything here is made
from the endpoint alone.
-/
namespace ApiAtlas

structure UsageExample where
  name : String
  description : String
  inputs : Table Json := []
  body : Option Json := none
  /-- The declared answer of success. -/
  expected : Option String := none

structure Guidance where
  usage : String
  inputs : Table String := []
  errors : Table String := []
  constraints : List String := []
  examples : List UsageExample := []

/-- A text without the full stops at its end. -/
def withoutStops (s : String) : String :=
  String.ofList (s.toList.reverse.dropWhile (· = '.')).reverse

def trimEnd (s : String) : String :=
  String.ofList (s.toList.reverse.dropWhile isBlank).reverse

namespace Endpoint

/-- What the operation does, as it follows a verb. -/
def action (e : Endpoint) : String :=
  let summary := (e.summary.map trim).getD ""
  if summary.isEmpty then "call " ++ e.path else Case.lowerText (withoutStops summary)

def sentenceIf (condition : Bool) (text : String) : List String := if condition then [text] else []

def bodyRequired (e : Endpoint) : Bool := (e.payload.map (·.required)).getD false

def usage (e : Endpoint) : String :=
  let description := (e.description.map trim).getD ""
  let sentences :=
    ["Use this " ++ e.method ++ " operation to " ++ e.action]
    ++ sentenceIf (!description.isEmpty) (withoutStops description)
    ++ sentenceIf (!e.pathInputs.isEmpty)
      "Path parameters are required and must be provided in the endpoint URL"
    ++ sentenceIf (!e.queryInputs.isEmpty)
      "Query parameters can be used to filter or modify the request"
    ++ sentenceIf e.bodyRequired "This operation requires a request body"
    ++ sentenceIf e.requiresAuth ("Authentication required using: " ++ ", ".intercalate e.schemes)
    ++ sentenceIf (!e.requiresAuth && e.authSource == .disabled)
      "This operation explicitly requires no authentication"
  ". ".intercalate sentences ++ "."

/-- What to mind before calling. -/
def constraints (e : Endpoint) : List String :=
  let required := (e.inputs.filter (·.required)).length
  sentenceIf e.deprecated "This operation is deprecated and may be removed in future versions"
  ++ sentenceIf e.requiresAuth "Authentication is required"
  ++ sentenceIf (required == 1) "1 required parameter must be provided"
  ++ sentenceIf (decide (1 < required))
    (toString required ++ " required parameters must be provided")
  ++ sentenceIf e.bodyRequired "Request body is required"

end Endpoint

namespace Facets

/-- A sentence for a range with one end or both. -/
def rangeText (both : α → α → String) (least greatest : α → String) :
    Option α → Option α → List String
  | some low, some high => [both low high]
  | some low, none => [least low]
  | none, some high => [greatest high]
  | none, none => []

/-- Format, range, length, values and pattern, as far as they are declared. -/
def sentences (f : Facets) : List String :=
  let number (x : Binary64) := Layout.plain.write x
  (match f.format with | some name => ["Format: " ++ name ++ "."] | none => [])
  ++ rangeText (fun a b => "Valid range: " ++ number a ++ " to " ++ number b ++ ".")
    (fun a => "Minimum value: " ++ number a ++ ".") (fun b => "Maximum value: " ++ number b ++ ".")
    f.minimum f.maximum
  ++ rangeText (fun a b => "Length: " ++ toString a ++ " to " ++ toString b ++ " characters.")
    (fun a => "Minimum length: " ++ toString a ++ ".")
    (fun b => "Maximum length: " ++ toString b ++ ".") f.minLength f.maxLength
  ++ (if f.enum.isEmpty then [] else ["Valid values: " ++ Json.renderAll f.enum ++ "."])
  ++ (match f.pattern with | some p => ["Must match pattern: " ++ p ++ "."] | none => [])

end Facets

namespace Input

def guidance (i : Input) : String :=
  " ".intercalate <|
    [if i.required then "Required parameter." else "Optional parameter."]
    ++ (if i.shape.primaryType.isSome then ["Type: " ++ i.shape.typeText ++ "."] else [])
    ++ (match i.shape.facets? with | some f => f.sentences | none => [])
    ++ (if i.deprecated then ["Deprecated."] else [])

/-- The declared example, or else a plausible value. -/
def exampleValue (i : Input) : Json := i.sample.getD i.shape.sample

end Input

namespace Outcome

/-- Whether a status stands for a failure or for all others. -/
def isFailure (status : String) : Bool :=
  status.toList.head? = some '4' ∨ status.toList.head? = some '5' ∨ status = "default"

def guidance (status : String) (o : Outcome) : String :=
  let description := trim o.description
  let opening :=
    if status.toList.head? = some '4' then
      if status = "400" then "Bad Request - Check parameter values and request format. "
      else if status = "401" then
        "Unauthorized - Verify authentication credentials are provided and valid. "
      else if status = "403" then
        "Forbidden - Check if you have permission to access this resource. "
      else if status = "404" then
        "Not Found - Verify the resource path and parameters are correct. "
      else if status = "429" then "Rate Limited - Wait before making additional requests. "
      else "Client Error - "
    else if status.toList.head? = some '5' then
      "Server Error - The API server encountered an issue. Retry may resolve temporary problems. "
    else ""
  trimEnd (opening ++ description)

end Outcome

namespace Endpoint

/-- The outcome of success: `200`, else `201`, else the first that begins with a two. -/
def success? (e : Endpoint) : Option (String × Outcome) :=
  (e.outcomes.find? (·.1 = "200")).or <| (e.outcomes.find? (·.1 = "201")).or <|
    e.outcomes.find? fun p => p.1.toList.head? = some '2'

/-- A call with every path input, and of the query and the headers those that are required or have an
example. -/
def usageExample (e : Endpoint) : UsageExample :=
  let given := e.pathInputs
    ++ (e.queryInputs ++ e.headerInputs).filter fun i => i.sample.isSome || i.required
  { name := "Basic Usage"
    description := "Basic " ++ e.method ++ " request to " ++ e.path
    inputs := Table.ofPairs (given.map fun i => (i.name, i.exampleValue))
    body := e.payload.bind fun p =>
      (p.examples.head?.map (·.value)).or (p.shape.map Shape.sample)
    expected := e.success?.map fun (status, o) => "HTTP " ++ status ++ ": " ++ o.description }

def guidance (e : Endpoint) : Guidance where
  usage := e.usage
  inputs := Table.ofPairs (e.inputs.map fun i => (i.name, i.guidance))
  errors := (e.outcomes.filter fun p => Outcome.isFailure p.1).map fun (status, o) =>
    (status, o.guidance status)
  constraints := e.constraints
  examples := [e.usageExample]

end Endpoint

open Member

def Json.ofTexts (table : Table String) : Json := .obj (table.map fun (k, s) => (k, .str s))

namespace UsageExample

def toJson (u : UsageExample) : Json := .obj <|
  always "name" (.str u.name) ++ always "description" (.str u.description)
  ++ always "parameters" (.obj u.inputs) ++ option "body" id u.body
  ++ option "expected_response" .str u.expected

end UsageExample

namespace Guidance

def toJson (g : Guidance) : Json := .obj <|
  always "usage" (.str g.usage) ++ always "parameters" (.ofTexts g.inputs)
  ++ always "errors" (.ofTexts g.errors) ++ always "constraints" (.strs g.constraints)
  ++ always "examples" (.arr (g.examples.map UsageExample.toJson))

end Guidance

namespace Endpoint

def toData (e : Endpoint) : Data := .record <|
  Data.plain (always "method" (.str e.method) ++ always "path" (.str e.path)
    ++ option "operation_id" .str e.operationId ++ always "display_id" (.str e.displayId)
    ++ option "summary" .str e.summary ++ option "description" .str e.description
    ++ always "tags" (.strs e.tags) ++ always "deprecated" (.bool e.deprecated))
  ++ Data.always "path_params" (.list (e.pathInputs.map Input.toData))
  ++ Data.always "query_params" (.list (e.queryInputs.map Input.toData))
  ++ Data.always "header_params" (.list (e.headerInputs.map Input.toData))
  ++ Data.always "cookie_params" (.list (e.cookieInputs.map Input.toData))
  ++ Data.option "request_body" Payload.toData e.payload
  ++ Data.always "responses" (.record (e.outcomes.map fun (k, o) => (k, o.toData)))
  ++ Data.plain (option "security" (fun rs => .arr (rs.map SecurityRequirement.toJson)) e.security
    ++ always "auth_methods" (.strs e.schemes) ++ always "auth_source" (.str e.authSource.text)
    ++ always "server_urls" (.strs e.serverUrls) ++ always "guidance" e.guidance.toJson)

def toJson (e : Endpoint) : Json := e.toData.toJson

end Endpoint
end ApiAtlas
