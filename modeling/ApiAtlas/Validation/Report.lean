import ApiAtlas.Discovery.Guidance
import ApiAtlas.Shape.Check

/-!
Reports on requests: one field report per parameter that is supplied or required, one on the body, and
sentences made from them. Each field report says whether the field is valid, and what is said of the
request follows from that.
-/
namespace ApiAtlas

/-- What was found about one parameter or body. -/
structure FieldReport where
  valid : Bool := true
  issues : List Issue := []
  path : String
  expected : String
  actual : Option Json := none
  constraints : String

structure ReportGuidance where
  summary : String := ""
  /-- What to change about each parameter that is not valid. -/
  inputs : Table String := []
  body : Option String := none

structure Report where
  valid : Bool := true
  operationId : String
  inputs : Table FieldReport := []
  body : Option FieldReport := none
  warnings : List String := []
  guidance : ReportGuidance := {}
  suggestions : List String := []

namespace FieldReport

def messages (f : FieldReport) : List String := f.issues.map (·.message)

def has (f : FieldReport) (kind : IssueKind) : Bool := f.issues.any (·.kind = kind)

/-- The report after a check that found one issue. -/
def fail (f : FieldReport) (issue : Issue) : FieldReport := { f with valid := false, issues := [issue] }

/-- The report after a check that found some issues or none. -/
def judge (f : FieldReport) (issues : List Issue) : FieldReport := { f with valid := issues.isEmpty, issues }

section

variable (f : FieldReport) (issue : Issue) (issues : List Issue)

@[simp] theorem valid_fail : (f.fail issue).valid = false := rfl
@[simp] theorem issues_fail : (f.fail issue).issues = [issue] := rfl
@[simp] theorem valid_judge : (f.judge issues).valid = issues.isEmpty := rfl
@[simp] theorem issues_judge : (f.judge issues).issues = issues := rfl

end

end FieldReport

/-- The reports that count as errors. -/
def invalidFields (inputs : Table FieldReport) : Table FieldReport := inputs.filter (!·.2.valid)

def Report.errorCount (r : Report) : Nat :=
  (invalidFields r.inputs).length + (if r.body.any (!·.valid) then 1 else 0)

namespace Input

/-- What an issue means for the caller. -/
def explain (i : Input) (issue : Issue) : String :=
  let facets := i.shape.facets?
  let subject := "Parameter '" ++ i.name ++ "'"
  let plain := subject ++ " " ++ issue.message ++ "."
  match issue.kind with
  | .required => subject ++ " is required for this operation."
  | .type => subject ++ " must be of type " ++ i.shape.typeText ++ "."
  | .length =>
    match facets.bind (·.minLength), facets.bind (·.maxLength) with
    | some low, some high =>
      subject ++ " must be between " ++ toString low ++ " and " ++ toString high ++ " characters."
    | _, _ => plain
  | .pattern =>
    match facets.bind (·.pattern) with
    | some p => subject ++ " must match pattern: " ++ p ++ "."
    | none => plain
  | .range | .enum | .format | .items => plain
  | .additionalProperty | .composition | .unexpectedBody | .undeclaredStatus =>
    subject ++ ": " ++ issue.message ++ "."

/-- All issues explained, and a value that would do. -/
def advice (i : Input) (f : FieldReport) : String :=
  " ".intercalate <| firsts <|
    f.issues.map i.explain
    ++ (if i.exampleValue.isNull then [] else ["Example: " ++ i.exampleValue.render])

end Input

namespace Payload

def typesText (p : Payload) : String :=
  "Supported content types: " ++ ", ".intercalate p.contentTypes ++ "."

def explain : IssueKind → String
  | .required => "Ensure all required fields are included."
  | .type => "Check that field types match the expected schema."
  | .format => "Verify that field formats (email, date, etc.) are correct."
  | .additionalProperty => "Remove fields the schema does not declare."
  | .composition => "Make sure the body matches one of the allowed shapes."
  | .range | .length | .pattern | .enum | .items | .unexpectedBody | .undeclaredStatus =>
    "Check that field values satisfy the declared constraints."

def advice (p : Payload) (f : FieldReport) : String :=
  if f.has .required && f.issues.any fun i => (Path.text i.path).isEmpty then
    "This operation requires a request body. " ++ p.typesText
  else " ".intercalate <| firsts <|
    ["Request body validation failed."] ++ f.issues.map (explain ·.kind)
    ++ (if p.contentTypes.isEmpty then [] else [p.typesText])
    ++ (match p.shape with
      | some s => ["Expected schema type: " ++ s.typeText ++ "."]
      | none => [])

end Payload

namespace Endpoint

def bodyAdvice (e : Endpoint) (f : FieldReport) : String :=
  match e.payload with
  | some p => p.advice f
  | none => "This operation does not expect a request body. Send the request without one."

end Endpoint

namespace ReportGuidance

/-- The outcome in one sentence. -/
def summaryText (errors : Nat) : String :=
  if errors = 0 then "Request validation passed successfully"
  else "Request validation failed with " ++ toString errors ++ " error"
    ++ (if errors = 1 then "" else "s")

def of (e : Endpoint) (r : Report) : ReportGuidance where
  summary := summaryText r.errorCount
  inputs := (invalidFields r.inputs).map fun (name, f) =>
    (name, match e.input? name with
      | some i => i.advice f
      | none => "Parameter '" ++ name ++ "' validation failed")
  body := (r.body.filter (!·.valid)).map e.bodyAdvice

end ReportGuidance

namespace Report

def suggestion (name : String) (f : FieldReport) (issue : Issue) : String :=
  match issue.kind with
  | .required => "Add the required parameter '" ++ name ++ "' to your request"
  | .type => "Convert parameter '" ++ name ++ "' to the correct type (" ++ f.expected ++ ")"
  | .range | .length | .pattern | .enum | .items =>
    "Adjust parameter '" ++ name ++ "' to meet constraints: " ++ f.constraints
  | .format | .additionalProperty | .composition | .unexpectedBody | .undeclaredStatus =>
    "Fix validation error for parameter '" ++ name ++ "': " ++ issue.message

def bodySuggestions (e : Endpoint) (f : FieldReport) : List String :=
  if f.has .unexpectedBody then
    ["Remove the request body; this operation does not accept one"]
  else
    ["Review request body structure and ensure it matches the expected schema"]
    ++ (if e.payload.any (!·.examples.isEmpty) then
      ["Refer to the provided examples for correct request body format"] else [])

def suggestionsFor (e : Endpoint) (r : Report) : List String :=
  if r.valid then []
  else
    let found := firsts <|
      ((invalidFields r.inputs).flatMap fun (name, f) => f.issues.map (suggestion name f))
      ++ ((r.body.filter (!·.valid)).map (bodySuggestions e)).getD []
    if 2 < found.length then
      firsts (found
        ++ ["Consider using request validation tools or API documentation for guidance"])
    else found

end Report

open Member

namespace FieldReport

def toJson (f : FieldReport) : Json := .obj <|
  always "valid" (.bool f.valid) ++ always "errors" (.arr (f.issues.map Issue.toJson))
  ++ always "field_path" (.str f.path) ++ always "expected_type" (.str f.expected)
  ++ option "actual_value" id f.actual ++ always "constraints" (.str f.constraints)

end FieldReport

namespace ReportGuidance

def toJson (g : ReportGuidance) : Json := .obj <|
  always "summary" (.str g.summary) ++ always "parameters" (.ofTexts g.inputs)
  ++ option "body" .str g.body

end ReportGuidance

namespace Report

def toJson (r : Report) : Json := .obj <|
  always "valid" (.bool r.valid) ++ always "operation_id" (.str r.operationId)
  ++ always "parameters" (.obj (r.inputs.map fun (k, f) => (k, f.toJson)))
  ++ option "request_body" FieldReport.toJson r.body ++ list "warnings" .str r.warnings
  ++ always "guidance" r.guidance.toJson ++ always "suggestions" (.strs r.suggestions)

end Report
end ApiAtlas
