import ApiAtlas.Proofs.Shape.IssueOrigins
import ApiAtlas.Proofs.Validation.Missing

/-! Example calls, checked. The example of an operation has a value for every required parameter of the path,
the query and the headers, and a body where the payload has an example or a shape. Cookies are left out of it,
so that an example lacks the required ones, unless another parameter has their name. -/
namespace ApiAtlas

theorem Table.get?_ofPairs_eq_none_iff {α : Type} {entries : Table α} {key : String} :
    (ofPairs entries).get? key = none ↔ key ∉ keys entries := by
  rw [Option.eq_none_iff_forall_ne_some]
  constructor
  · intro absent member
    obtain ⟨a, last⟩ := exists_last member
    exact absent a ((get?_eq_some_iff (nodup_keys_ofPairs _)).mpr ((mem_ofPairs_iff _).mpr last))
  · intro absent a found
    obtain ⟨before, after, rfl, -⟩ :=
      (mem_ofPairs_iff entries).mp ((get?_eq_some_iff (nodup_keys_ofPairs _)).mp found)
    exact absent (by simp [keys])

namespace Report

/-- A required parameter is reported to be missing. -/
def Misses (r : Report) (name : String) : Prop :=
  ∃ f, r.inputs.get? name = some f ∧ ∃ issue ∈ f.issues, issue.kind = .required ∧ issue.path = [.key name]

def MissesBody (r : Report) : Prop :=
  ∃ f, r.body = some f ∧ ∃ issue ∈ f.issues, issue.kind = .required ∧ issue.path = []

end Report

/-- What is required of a supplied value is required inside of it. -/
theorem Input.path_ne_of_required {i : Input} {l : Leniency} {v : Json} {issue : Issue}
    (found : issue ∈ (i.checkValue l v).issues) (required : issue.kind = .required) :
    issue.path ≠ [.key i.name] := by
  unfold checkValue at found
  split at found
  next => contradiction
  next =>
    rw [FieldReport.issues_judge, valueIssues, Shape.validate_singleField] at found
    exact (Shape.sound_issues _ _ _ _ _ found).below required

namespace Turn

variable {l : Leniency} {t : Turn} {f : FieldReport}

/-- What is reported without a value. -/
theorem issues_of_silent (silent : t.supplied = none) (reported : t.report? l = some f) :
    t.input.required = true ∧ l.skipRequired = false ∧ f.issues = [t.input.missing] := by
  simp only [report?, Input.check?, silent] at reported
  split at reported
  next needed =>
    obtain ⟨required, checked⟩ : t.input.required = true ∧ l.skipRequired = false := by simpa using needed
    obtain rfl := Option.some.inj reported
    exact ⟨required, checked, rfl⟩
  next => contradiction

end Turn

namespace Endpoint

variable {e : Endpoint} {id name : String} {l : Leniency} {params : Table Json} {body : Option Json}

/-- A parameter is reported to be missing if one of its name is required and nothing is given under the name. -/
theorem misses_validate_iff : (e.validate id l params body).1.Misses name ↔
    l.skipRequired = false ∧ params.get? name = none ∧ ∃ i ∈ e.inputs, i.name = name ∧ i.required = true := by
  have turn {f : FieldReport} (found : (e.validate id l params body).1.inputs.get? name = some f) :
      ∃ t ∈ e.turns l params, t.input.name = name ∧ t.report? l = some f := by
    obtain ⟨t, before, after, whole, named, reported, -⟩ := Turn.of_last_entry (get?_inputs_validate.mp found)
    exact ⟨t, by simp [whole], named, reported⟩
  constructor
  · rintro ⟨f, found, issue, listed, kind, place⟩
    obtain ⟨t, member, rfl, reported⟩ := turn found
    cases supplied : t.supplied with
    | some v =>
      obtain rfl := Option.some.inj ((Turn.report?_supplied v supplied).symm.trans reported)
      exact absurd place (Input.path_ne_of_required listed kind)
    | none =>
      obtain ⟨required, checked, -⟩ := Turn.issues_of_silent supplied reported
      have absent : params.get? t.input.name = none := by
        have same := turns_supplied member
        simpa [supplied] using same.symm
      have input : t.input ∈ e.inputs := by
        rw [← map_input_turnsOf l e.inputs params]
        exact List.mem_map_of_mem member
      exact ⟨checked, absent, t.input, input, rfl, required⟩
  · rintro ⟨checked, absent, i, member, rfl, required⟩
    obtain ⟨f, found, -⟩ : ∃ f, (e.validate id l params body).1.inputs.get? i.name = some f ∧ _ :=
      (missing_input_reported member required absent checked).2
    obtain ⟨t, member, named, reported⟩ := turn found
    have silent : t.supplied = none := by
      have same := turns_supplied member
      rw [named, absent] at same
      simpa using same
    have issues := (Turn.issues_of_silent silent reported).2.2
    exact ⟨f, found, t.input.missing, by simp [issues], rfl, by rw [Input.missing, named]⟩

/-- The body is reported to be missing if it is required and not given. -/
theorem missesBody_validate_iff : (e.validate id l params body).1.MissesBody ↔
    l.skipRequired = false ∧ body = none ∧ ∃ p, e.payload = some p ∧ p.required = true := by
  have reported : (e.validate id l params body).1.body = e.checkBody l body := rfl
  rw [Report.MissesBody, reported]
  cases expected : e.payload with
  | none => cases body <;> simp [checkBody, expected]
  | some p =>
    cases body with
    | none =>
      cases required : p.required <;> cases skipped : l.skipRequired <;>
        simp [checkBody, expected, required, skipped]
    | some v =>
      constructor
      · rintro ⟨f, found, issue, listed, kind, place⟩
        simp only [checkBody, expected] at found
        split at found
        next => contradiction
        next =>
          obtain rfl := Option.some.inj found
          cases declared : p.shape with
          | none => simp [declared] at listed
          | some s =>
            simp only [FieldReport.issues_judge, declared, Option.map_some, Option.getD_some] at listed
            exact absurd place ((Shape.sound_issues _ _ _ _ _ listed).below kind)
      · rintro ⟨-, given, -⟩
        contradiction

/-- Every required input but those in cookies has a value in the example. -/
theorem mem_cookieInputs_of_absent {i : Input} (member : i ∈ e.inputs) (required : i.required = true)
    (absent : e.usageExample.inputs.get? i.name = none) : i ∈ e.cookieInputs := by
  simp only [usageExample, Table.get?_ofPairs_eq_none_iff, Table.keys, List.map_map] at absent
  have left (given : i ∈ e.pathInputs ++ (e.queryInputs ++ e.headerInputs).filter fun i =>
      i.sample.isSome || i.required) : False := absent (List.mem_map_of_mem given)
  simp only [List.mem_append, List.mem_filter, required, Bool.or_true, and_true] at left
  simp only [inputs, List.mem_append] at member
  tauto

theorem usageExample_body_eq_none_iff {p : Payload} (expected : e.payload = some p) :
    e.usageExample.body = none ↔ p.examples = [] ∧ p.shape = none := by
  simp [usageExample, expected]

theorem misses_usageExample_iff : (e.validate id {} e.usageExample.inputs body).1.Misses name ↔
    e.usageExample.inputs.get? name = none ∧ ∃ i ∈ e.cookieInputs, i.name = name ∧ i.required = true := by
  rw [misses_validate_iff]
  constructor
  · rintro ⟨-, absent, i, member, rfl, required⟩
    exact ⟨absent, i, mem_cookieInputs_of_absent member required absent, rfl, required⟩
  · rintro ⟨absent, i, member, named, required⟩
    exact ⟨rfl, absent, i, List.mem_append_right _ member, named, required⟩

theorem missesBody_usageExample_iff : (e.validate id {} params e.usageExample.body).1.MissesBody ↔
    ∃ p, e.payload = some p ∧ p.required = true ∧ p.examples = [] ∧ p.shape = none := by
  rw [missesBody_validate_iff]
  constructor
  · rintro ⟨-, none, p, expected, required⟩
    exact ⟨p, expected, required, (usageExample_body_eq_none_iff expected).mp none⟩
  · rintro ⟨p, expected, required, nothing⟩
    exact ⟨rfl, (usageExample_body_eq_none_iff expected).mpr nothing, p, expected, required⟩

end Endpoint

namespace Discovery

/-- The example of an operation, sent as it stands, lacks the required cookies under whose names it has no other
value, and the body if it is required and has neither an example nor a shape. It lacks nothing else. -/
theorem example_lacks_cookies {d : Discovery} {e : Endpoint} (found : d.findById e.displayId = .ok e) :
    ∃ u report after, e.guidance.examples.head? = some u ∧
      d.validate e.displayId {} u.inputs u.body = .ok (report, after) ∧
      (∀ name, report.Misses name ↔
        u.inputs.get? name = none ∧ ∃ i ∈ e.cookieInputs, i.name = name ∧ i.required = true) ∧
      (report.MissesBody ↔
        ∃ p, e.payload = some p ∧ p.required = true ∧ p.examples = [] ∧ p.shape = none) := by
  have validated := validate_of_found found {} e.usageExample.inputs e.usageExample.body
  exact ⟨_, _, _, rfl, validated, fun name => Endpoint.misses_usageExample_iff,
    Endpoint.missesBody_usageExample_iff⟩

end Discovery

def Document.welcoming : Document where
  paths := [("/me", { get := some {
    operationId := some "getMe"
    parameters := [.inline { name := "verbose", location := .query, required := true },
      .inline { name := "session", location := .cookie, required := true }] } })]

namespace Discovery

theorem exists_welcoming : ∃ d e, ofDocument Document.welcoming = .ok d ∧ d.findById e.displayId = .ok e ∧
    e.usageExample.inputs.get? "session" = none ∧ e.payload = none ∧
    ∃ i, e.cookieInputs = [i] ∧ i.name = "session" ∧ i.required = true := by
  obtain ⟨d, made, e, found, named, rest⟩ : ∃ d, ofDocument Document.welcoming = .ok d ∧
      ∃ e, d.findById "getMe" = .ok e ∧ e.displayId = "getMe" ∧
        e.usageExample.inputs.get? "session" = none ∧ e.payload = none ∧
        ∃ i, e.cookieInputs = [i] ∧ i.name = "session" ∧ i.required = true := by
    rw [ofDocument, Document.resolve_eq]
    exact ⟨_, rfl, _, rfl, rfl, rfl, rfl, _, rfl, rfl, rfl⟩
  exact ⟨d, e, made, by rwa [named], rest⟩

/-- Nothing but the cookie is missing. -/
theorem welcoming_lacks_session : ∃ d e u report after, ofDocument Document.welcoming = .ok d ∧
    d.findById e.displayId = .ok e ∧ e.guidance.examples.head? = some u ∧
    d.validate e.displayId {} u.inputs u.body = .ok (report, after) ∧
    (∀ name, report.Misses name ↔ name = "session") ∧ ¬ report.MissesBody := by
  obtain ⟨d, e, made, found, absent, bare, i, cookies, named, required⟩ := exists_welcoming
  obtain ⟨u, report, after, shown, validated, inputs, body⟩ := example_lacks_cookies found
  obtain rfl := Option.some.inj shown
  refine ⟨d, e, _, report, after, made, found, rfl, validated, fun name => ?_, ?_⟩
  · rw [inputs name, cookies]
    simp only [List.mem_singleton, exists_eq_left, named, required, and_true]
    constructor
    · exact fun lacking => lacking.2.symm
    · rintro rfl
      exact ⟨absent, rfl⟩
  · rw [body, bare]
    simp

/-- Not every example has what is required. -/
theorem example_incomplete : ¬ ∀ (doc : Document) (d : Discovery) (e : Endpoint) (u : UsageExample)
    (report : Report) (after : Table Json), ofDocument doc = .ok d → d.findById e.displayId = .ok e →
    e.guidance.examples.head? = some u → d.validate e.displayId {} u.inputs u.body = .ok (report, after) →
    (∀ name, ¬ report.Misses name) ∧ ¬ report.MissesBody := by
  intro complete
  obtain ⟨d, e, made, found, absent, -, i, cookies, named, required⟩ := exists_welcoming
  have validated := validate_of_found found {} e.usageExample.inputs e.usageExample.body
  have lacking := (complete _ d e e.usageExample _ _ made found rfl validated).1 "session"
  exact lacking (Endpoint.misses_usageExample_iff.mpr ⟨absent, i, by simp [cookies], named, required⟩)

end Discovery
end ApiAtlas
