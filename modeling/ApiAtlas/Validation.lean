import ApiAtlas.Config
import ApiAtlas.Discovery
import ApiAtlas.Shape.Coerce
import ApiAtlas.Validation.Report

/-!
Validation of requests and responses against an endpoint. Parameters are checked in the order of the
endpoint's inputs; with coercion, a converted value takes the place of the supplied one, also for an
input of the same name that is checked later.
-/
namespace ApiAtlas

namespace Leniency

def checks (l : Leniency) : Shape.Checks := ⟨!l.skipRequired, !l.skipConstraints⟩

end Leniency

namespace Input

def missing (i : Input) : Issue :=
  ⟨[.key i.name], .required, "required parameter '" ++ i.name ++ "' is missing"⟩

/-- The report on an input before it is checked. -/
def unchecked (i : Input) : FieldReport where
  path := i.name
  expected := i.shape.typeText
  constraints := i.shape.constraintSummary

/-- The value that is checked in place of the supplied one. -/
def adapt (i : Input) (l : Leniency) (v : Json) : Json :=
  if l.allowCoercion then i.shape.coerce v else v

def valueIssues (i : Input) (l : Leniency) (v : Json) : List Issue :=
  Shape.validate l.checks (.singleField i.name i.shape false) (.obj [(i.name, v)])

def checkValue (i : Input) (l : Leniency) (v : Json) : FieldReport :=
  let report := if l.skipTypes then i.unchecked else i.unchecked.judge (i.valueIssues l v)
  { report with actual := some v }

/-- The report on an input, if it is supplied or required. -/
def check? (i : Input) (l : Leniency) : Option Json → Option FieldReport
  | none => if i.required && !l.skipRequired then some (i.unchecked.fail i.missing) else none
  | some v => some (i.checkValue l (i.adapt l v))

/-- The parameters once an input is checked. -/
def writeBack (i : Input) (l : Leniency) (params : Table Json) : Table Json :=
  match params.get? i.name with
  | some v => params.put i.name (i.adapt l v)
  | none => params

end Input

namespace Endpoint

/-- Checks inputs one after the other. -/
def checkInputs (l : Leniency) : List Input → Table FieldReport → Table Json →
    Table FieldReport × Table Json
  | [], reports, params => (reports, params)
  | i :: rest, reports, params =>
    checkInputs l rest
      (match i.check? l (params.get? i.name) with
        | some f => reports.put i.name f
        | none => reports)
      (i.writeBack l params)

def uncheckedBody (e : Endpoint) : FieldReport where
  path := "requestBody"
  expected := ((e.payload.bind (·.shape)).map Shape.typeText).getD "none"
  constraints := "Must match operation schema"

def checkBody (e : Endpoint) (l : Leniency) (body : Option Json) : Option FieldReport :=
  match e.payload, body with
  | none, some _ =>
    some (e.uncheckedBody.fail ⟨[], .unexpectedBody, "operation does not expect a request body"⟩)
  | some p, none =>
    if p.required && !l.skipRequired then
      some (e.uncheckedBody.fail ⟨[], .required, "required request body is missing"⟩)
    else none
  | some p, some v =>
    if l.skipTypes then none
    else some (e.uncheckedBody.judge ((p.shape.map fun s => Shape.validate l.checks s v).getD []))
  | none, none => none

/-- One warning for each parameter that is not declared. -/
def warnings (e : Endpoint) (params : Table Json) : List String :=
  (params.keys.filter fun name => (e.input? name).isNone).map fun name =>
    "parameter '" ++ name ++ "' is not declared by operation " ++ e.displayId

/-- The report on a request and its parameters afterwards. The verdict, the guidance and the suggestions
are made one after the other from the report so far. -/
def validate (e : Endpoint) (id : String) (l : Leniency) (params : Table Json)
    (body : Option Json) : Report × Table Json :=
  let (inputs, after) := checkInputs l e.inputs [] params
  let r : Report :=
    { operationId := id, inputs, body := e.checkBody l body, warnings := e.warnings after }
  let r := { r with valid := r.errorCount == 0 }
  let r := { r with guidance := .of e r }
  ({ r with suggestions := r.suggestionsFor e }, after)

/-- The outcome declared for a status: its own, that of its class, or the default. -/
def outcomeFor? (e : Endpoint) (status : String) : Option Outcome :=
  let ofClass := match status.toList with
    | c :: _ => c.toString ++ "XX"
    | [] => ""
  (e.outcomes.get? status).or <| (e.outcomes.get? ofClass).or <| e.outcomes.get? "default"

def validateResponse (e : Endpoint) (status : String) (body : Option Json) : FieldReport :=
  let path := "response." ++ status
  match e.outcomeFor? status with
  | none =>
    let unchecked : FieldReport :=
      { path, expected := "declared status"
        constraints := "declared: " ++ ", ".intercalate e.outcomes.keys }
    unchecked.fail ⟨[], .undeclaredStatus,
      "status code " ++ status ++ " is not declared for operation " ++ e.displayId⟩
  | some o =>
    let unchecked : FieldReport :=
      { path, expected := (o.shape.map Shape.typeText).getD "any"
        constraints := "Must match response schema" }
    unchecked.judge <| match o.shape, body with
      | some s, some v => Shape.validate {} s v
      | _, _ => []

end Endpoint

namespace Discovery

/-- Validates a request for the operation of an identifier. Its parameters are the state. -/
def request (d : Discovery) (id : String) (l : Leniency) (body : Option Json) :
    ExceptT LookupError (StateM (Table Json)) Report := do
  let e ← liftExcept (d.findById id)
  modifyGet fun params => e.validate id l params body

/-- What becomes of a request, and its parameters afterwards. -/
def submit (d : Discovery) (id : String) (l : Leniency) (params : Table Json) (body : Option Json) :
    Except LookupError Report × Table Json :=
  ((d.request id l body).run.run params).run

theorem submit_eq (d : Discovery) (id : String) (l : Leniency) (params : Table Json) (body : Option Json) :
    d.submit id l params body = match d.findById id with
      | .ok e => (.ok (e.validate id l params body).1, (e.validate id l params body).2)
      | .error e => (.error e, params) := by
  unfold submit request
  cases d.findById id <;> rfl

def validate (d : Discovery) (id : String) (l : Leniency) (params : Table Json)
    (body : Option Json) : Except LookupError (Report × Table Json) :=
  let (outcome, after) := d.submit id l params body
  outcome.map (·, after)

theorem validate_of_found {d : Discovery} {id : String} {e : Endpoint} (found : d.findById id = .ok e)
    (l : Leniency) (params : Table Json) (body : Option Json) :
    d.validate id l params body = .ok (e.validate id l params body) := by
  rw [validate, submit_eq, found]
  rfl

def validateResponse (d : Discovery) (id status : String) (body : Option Json) :
    Except LookupError FieldReport := do
  return (← d.findById id).validateResponse status body

end Discovery
end ApiAtlas
