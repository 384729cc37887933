import ApiAtlas.Proofs.Discovery.Declared
import ApiAtlas.Proofs.Validation.Verdict

/-! Requests that leave out what is required or bring a body that nobody asked for. A missing value stays
missing at every turn of its name, so that the last report under the name says so, whatever other inputs of
that name report. -/
namespace ApiAtlas

namespace Endpoint

variable {e : Endpoint} {id : String} {l : Leniency} {params : Table Json} {body : Option Json}

/-- The reports on parameters are the entries of the turns, the last one of each name. -/
theorem inputs_validate (e : Endpoint) (id : String) (l : Leniency) (params : Table Json)
    (body : Option Json) : (e.validate id l params body).1.inputs =
      Table.ofPairs ((e.turns l params).filterMap (Turn.written? l)) :=
  checkInputs_reports l e.inputs [] params

theorem get?_inputs_validate {name : String} {f : FieldReport} :
    (e.validate id l params body).1.inputs.get? name = some f ↔
      Table.Last ((e.turns l params).filterMap (Turn.written? l)) name f := by
  rw [inputs_validate, Table.get?_eq_some_iff (Table.nodup_keys_ofPairs _), Table.mem_ofPairs_iff]

/-- A report without a value says that a required one is missing. -/
theorem report_of_missing {t : Turn} {f : FieldReport} (missing : t.supplied = none)
    (reported : t.report? l = some f) : f.has .required = true := by
  simp only [Turn.report?, Input.check?, missing] at reported
  split at reported
  next =>
    cases reported
    simp [FieldReport.has, Input.missing]
  next => contradiction

/-- A required input without a value makes the request invalid, and the report under its name says so. -/
theorem missing_input_reported {i : Input} (member : i ∈ e.inputs) (required : i.required = true)
    (missing : params.get? i.name = none) (checked : l.skipRequired = false) :
    (e.validate id l params body).1.valid = false ∧
      ∃ f, (e.validate id l params body).1.inputs.get? i.name = some f ∧ f.has .required = true := by
  obtain ⟨t, turn, rfl⟩ : ∃ t ∈ e.turns l params, t.input = i := by
    rwa [← map_input_turnsOf l e.inputs params, List.mem_map] at member
  have absent {u : Turn} (member : u ∈ e.turns l params) (same : u.input.name = t.input.name) :
      u.supplied = none := by
    have supplied := turns_supplied member
    rw [same, missing] at supplied
    simpa using supplied
  have reported : t.report? l = some (t.input.unchecked.fail t.input.missing) := by
    simp [Turn.report?, Input.check?, absent turn rfl, required, checked]
  have named : t.input.name ∈ Table.keys ((e.turns l params).filterMap (Turn.written? l)) := by
    simp only [Table.keys, List.mem_map, List.mem_filterMap]
    exact ⟨_, ⟨t, turn, by rw [Turn.written?, reported]; rfl⟩, rfl⟩
  obtain ⟨f, last⟩ := Table.exists_last named
  obtain ⟨u, before, after, whole, same, answered, -⟩ := Turn.of_last_entry last
  have silent : u.supplied = none := absent (by simp [whole]) same
  refine ⟨?_, f, get?_inputs_validate.mpr last, report_of_missing silent answered⟩
  rw [← Bool.not_eq_true, valid_iff_last_entries]
  rintro ⟨entries, -⟩
  have valid := entries _ f last
  rw [Turn.not_valid_of_missing silent answered] at valid
  contradiction

/-- An invalid body makes the request invalid. -/
theorem invalid_of_body {f : FieldReport} (reported : e.checkBody l body = some f)
    (invalid : f.valid = false) : (e.validate id l params body).1.valid = false := by
  rw [← Bool.not_eq_true, valid_iff_last_entries]
  rintro ⟨-, passes⟩
  have valid := passes f reported
  rw [invalid] at valid
  contradiction

theorem missing_body_reported {p : Payload} (expected : e.payload = some p)
    (required : p.required = true) (checked : l.skipRequired = false) :
    (e.validate id l params none).1.valid = false ∧
      ∃ f, (e.validate id l params none).1.body = some f ∧ f.has .required = true := by
  have reported : e.checkBody l none =
      some (e.uncheckedBody.fail ⟨[], .required, "required request body is missing"⟩) := by
    simp [checkBody, expected, required, checked]
  exact ⟨invalid_of_body reported rfl, _, reported, rfl⟩

theorem unexpected_body_reported {v : Json} (unexpected : e.payload = none) :
    (e.validate id l params (some v)).1.valid = false ∧
      ∃ f, (e.validate id l params (some v)).1.body = some f ∧ f.has .unexpectedBody = true := by
  have reported : e.checkBody l (some v) =
      some (e.uncheckedBody.fail ⟨[], .unexpectedBody, "operation does not expect a request body"⟩) := by
    simp [checkBody, unexpected]
  exact ⟨invalid_of_body reported rfl, _, reported, rfl⟩

end Endpoint

namespace Discovery

/-- Required parts may not be left out, and a body may not be added. The parts are those that the document
declares for the operation, before references are resolved. -/
theorem missing_or_surplus_rejected {doc : Document} {d : Discovery} {id : String} {e : Endpoint}
    (made : ofDocument doc = .ok d) (found : d.findById id = .ok e) :
    ∃ item v o, (e.path, item) ∈ doc.paths ∧ e.method = v.text ∧ item.operation? v = some o ∧
      ∀ (l : Leniency) (params : Table Json) (body : Option Json), ∃ report after,
        d.validate id l params body = .ok (report, after) ∧
        (∀ p : Parameter, p.Last (doc.parts.listed item o) →
          p.required = true ∨ p.location = .path → params.get? p.name = none → l.skipRequired = false →
          report.valid = false ∧ ∃ f, report.inputs.get? p.name = some f ∧ f.has .required = true) ∧
        (∀ ref b, o.requestBody = some ref → doc.parts.body? ref = some b → b.required = true →
          body = none → l.skipRequired = false →
          report.valid = false ∧ ∃ f, report.body = some f ∧ f.has .required = true) ∧
        (o.requestBody = none → body ≠ none →
          report.valid = false ∧ ∃ f, report.body = some f ∧ f.has .unexpectedBody = true) := by
  obtain ⟨item, v, o, declared, method, operation, shows⟩ :=
    exists_declared made (mem_endpoints_of_findById found)
  refine ⟨item, v, o, declared, method, operation, fun l params body => ?_⟩
  refine ⟨_, _, validate_of_found found l params body, ?_, ?_, ?_⟩
  · intro p last needed missing checked
    obtain ⟨i, member, name, required⟩ := shows.input p last
    rw [← name] at missing ⊢
    refine Endpoint.missing_input_reported member ?_ missing checked
    rcases needed with needed | needed <;> simp [required, needed]
  · rintro ref b given target required rfl checked
    have bodies := shows.payload
    rw [given] at bodies
    generalize expected : e.payload = payload at bodies
    cases bodies with
    | some same =>
      obtain ⟨b', target', same⟩ := same
      obtain rfl := Option.some.inj (target.symm.trans target')
      exact Endpoint.missing_body_reported expected (same.trans required) checked
  · intro none given
    have bodies := shows.payload
    rw [none] at bodies
    generalize expected : e.payload = payload at bodies
    cases bodies
    obtain ⟨v, rfl⟩ := Option.ne_none_iff_exists'.mp given
    exact Endpoint.unexpected_body_reported expected

def Document.identified : Document where
  paths := [("/items/\x7bid\x7d", { put := some {
    operationId := some "putItem"
    parameters := [.ref "#/components/parameters/Id", .inline { name := "id", location := .query }]
    requestBody := some (.inline { required := true }) } })]
  components := some { parameters := [("Id", .inline { name := "id", location := .path })] }

/-- With nothing sent, both are reported. -/
theorem identified_rejects_nothing : ∃ d report after, ofDocument Document.identified = .ok d ∧
    d.validate "putItem" { allowCoercion := true } [] none = .ok (report, after) ∧
    report.valid = false ∧ (∃ f, report.inputs.get? "id" = some f ∧ f.has .required = true) ∧
    ∃ f, report.body = some f ∧ f.has .required = true := by
  obtain ⟨d, made, e, found⟩ : ∃ d, ofDocument Document.identified = .ok d ∧
      ∃ e, d.findById "putItem" = .ok e := by
    rw [ofDocument, Document.resolve_eq]
    exact ⟨_, rfl, _, rfl⟩
  obtain ⟨item, v, o, declared, -, operation, rejects⟩ := missing_or_surplus_rejected made found
  obtain ⟨-, rfl⟩ := Prod.mk.inj (List.mem_singleton.mp declared)
  obtain ⟨report, after, validated, inputs, body, -⟩ := rejects { allowCoercion := true } [] none
  cases v <;> cases operation
  obtain ⟨invalid, reported⟩ := inputs { name := "id", location := .path }
    ⟨[], [{ name := "id", location := .query }], rfl, by simp⟩ (.inr rfl) rfl rfl
  exact ⟨d, report, after, made, validated, invalid, reported, (body _ _ rfl rfl rfl rfl rfl).2⟩

end Discovery
end ApiAtlas
