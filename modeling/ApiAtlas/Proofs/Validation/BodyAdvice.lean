import ApiAtlas.Proofs.Shape.Comparison
import ApiAtlas.Proofs.Validation.Missing

/-! What the guidance says about bodies. It says that a body is missing if something required is missing and something
is wrong at a path whose text is empty. A missing body is both at once. But the two may also come from two shapes that
are applied to parts of a body that was sent, and then it is said to be missing too. -/
namespace ApiAtlas

namespace Shape

/-- A shape reports something required somewhere and a failure at a path without a text. The two failures may be
those of different shapes at different places. -/
structure Obscures (c : Checks) (s : Shape) (v : Json) : Prop where
  lacking : ∃ place t w rest, Applied s v place t w ∧ Fails c t w rest .required
  silent : ∃ place t w rest kind, Applied s v place t w ∧ Fails c t w rest kind ∧
    ∀ step ∈ place ++ rest, step = .key ""

end Shape

/-- Issues that say that something is required, and that something is wrong at a path without a text. -/
def LookMissing (issues : List Issue) : Prop :=
  (∃ issue ∈ issues, issue.kind = .required) ∧ ∃ issue ∈ issues, Path.text issue.path = ""

instance (issues : List Issue) : Decidable (LookMissing issues) := inferInstanceAs (Decidable (_ ∧ _))

namespace Shape

variable {c : Checks} {s : Shape} {v : Json}

theorem obscures_iff : s.Obscures c v ↔ LookMissing (validate c s v) := by
  constructor
  · rintro ⟨⟨place, t, w, rest, applied, fails⟩, ⟨place', t', w', rest', kind, applied', fails', silent⟩⟩
    obtain ⟨message, lacking⟩ := fails.reported
    obtain ⟨message', failing⟩ := fails'.reported
    exact ⟨⟨_, applied.reported lacking, rfl⟩, _, applied'.reported failing, Path.text_eq_empty_iff.mpr silent⟩
  · rintro ⟨⟨issue, found, required⟩, other, found', silent⟩
    obtain ⟨place, t, w, rest, -, applied, fails⟩ := traced_of_validate s v issue found
    obtain ⟨place', t', w', rest', path, applied', fails'⟩ := traced_of_validate s v other found'
    rw [required] at fails
    rw [Path.text_eq_empty_iff, path] at silent
    exact ⟨⟨place, t, w, rest, applied, fails⟩, place', t', w', rest', other.kind, applied', fails', silent⟩

/-- What the shape finds wrong with the value as a whole and what it finds required are not reported together. -/
def Separate : Shape → Json → Prop
  | .simple f _, .obj members => f.enum = [] ∧ "" ∉ f.required ∧ ∀ w, ("", w) ∉ members
  | .simple f _, .arr _ => f.enum = [] ∧ f.minItems = none ∧ f.maxItems = none ∧ f.uniqueItems = false
  | .allOf _, _ => False
  | _, _ => True

/-- A value of the wrong type has no issue but that. -/
theorem typed_of_nodeIssues {f : Facets} {parts : NodeParts Checker} {path : Path} {issue : Issue}
    (found : issue ∈ nodeIssues c f parts v path) (other : issue.kind ≠ .type) :
    v.isNull = false ∧ f.type.all (Json.hasType · v) = true := by
  have lone (found : issue ∈ [typeIssue path f.type v]) : False :=
    other (List.mem_singleton.mp found ▸ rfl)
  unfold nodeIssues at found
  split at found
  next =>
    split at found
    · contradiction
    · exact (lone found).elim
  next present =>
    split at found
    · exact (lone found).elim
    next typed => exact ⟨by simpa using present, by simpa using typed⟩

/-- What is reported of the members of an object begins with the name of one of them, or of one that is required. -/
theorem exists_name_of_contentIssues {f : Facets} {parts : NodeParts Shape} {members : List (String × Json)}
    {issue : Issue} (found : issue ∈ contentIssues c f (partIssues c parts) (.obj members) []) :
    ∃ name, .key name ∈ issue.path ∧ (name ∈ f.required ∨ ∃ w, (name, w) ∈ members) := by
  rcases List.mem_append.mp found with missing | inside
  · split at missing
    · obtain ⟨name, required, missing⟩ := List.mem_flatMap.mp missing
      exact ⟨name, by simp [(mem_demand_iff.mp missing).2], .inl required⟩
    · contradiction
  · obtain ⟨⟨name, w⟩, member, reported⟩ := List.mem_flatMap.mp inside
    refine ⟨name, ?_, .inr ⟨w, member⟩⟩
    simp only [partIssues_eq, memberIssues_eq, NodeParts.rule_map] at reported
    cases rule : parts.rule name with
    | allowed => simp [rule, Additional.map] at reported
    | denied =>
      obtain rfl : issue = _ := by simpa [rule, Additional.map] using reported
      simp
    | shape s =>
      simp only [rule, Additional.map] at reported
      exact (sound_issues c s w _ issue reported).inside.subset (by simp)

/-- What is reported of the items of an array begins with an index. -/
theorem exists_index_of_contentIssues {f : Facets} {parts : NodeParts Shape} {items : List Json} {issue : Issue}
    (uncounted : f.minItems = none ∧ f.maxItems = none ∧ f.uniqueItems = false)
    (found : issue ∈ contentIssues c f (partIssues c parts) (.arr items) []) : ∃ i, .index i ∈ issue.path := by
  obtain ⟨noLeast, noMost, repeats⟩ := uncounted
  rcases List.mem_append.mp found with counts | inside
  · simp [itemCountIssues, noLeast, noMost, repeats, limit, demand] at counts
  · rw [partIssues_eq] at inside
    cases declared : parts.items with
    | none => simp [NodeParts.map, declared] at inside
    | some s =>
      simp only [NodeParts.map, declared, Option.map_some] at inside
      obtain ⟨i, w, -, reported⟩ := exists_item_of_itemIssues inside
      exact ⟨_, (sound_issues c s w _ issue reported).inside.subset (List.mem_singleton_self _)⟩

theorem not_obscures_of_separate (separate : s.Separate v) : ¬ s.Obscures c v := by
  rw [obscures_iff]
  rintro ⟨⟨issue, found, required⟩, other, found', silent⟩
  have unnamed := Path.text_eq_empty_iff.mp silent
  cases s with
  | allOf => exact separate
  | anyOf | oneOf | not =>
    have same := (mem_demand_iff.mp found).2
    simp [same] at required
  | simple f parts =>
    simp only [validate, issues] at found found'
    obtain ⟨present, typed⟩ := typed_of_nodeIssues found (by simp [required])
    cases v with
    | obj members =>
      obtain ⟨unlisted, named, keys⟩ := separate
      have content : other ∈ contentIssues c f (partIssues c parts) (.obj members) [] := by
        simpa [nodeIssues, present, typed, unlisted] using found'
      obtain ⟨name, step, given⟩ := exists_name_of_contentIssues content
      obtain rfl := Step.key.inj (unnamed _ step)
      rcases given with required | ⟨w, member⟩
      · exact named required
      · exact keys w member
    | arr items =>
      obtain ⟨unlisted, uncounted⟩ := separate
      have content : other ∈ contentIssues c f (partIssues c parts) (.arr items) [] := by
        simpa [nodeIssues, present, typed, unlisted] using found'
      obtain ⟨i, step⟩ := exists_index_of_contentIssues uncounted content
      exact Step.noConfusion (unnamed _ step)
    | _ =>
      rw [partIssues_eq] at found
      cases reports_of_nodeIssues found with
      | here _ missing => exact missing required

end Shape

namespace Payload

/-- The sentences about a body that is missing. -/
def absence (p : Payload) : String := "This operation requires a request body. " ++ p.typesText

/-- The sentences about a body that is wrong. -/
def failure (p : Payload) (f : FieldReport) : String :=
  " ".intercalate <| firsts <|
    ["Request body validation failed."] ++ f.issues.map (explain ·.kind)
    ++ (if p.contentTypes.isEmpty then [] else [p.typesText])
    ++ (match p.shape with
      | some s => ["Expected schema type: " ++ s.typeText ++ "."]
      | none => [])

theorem advice_eq (p : Payload) (f : FieldReport) :
    p.advice f = if LookMissing f.issues then p.absence else p.failure f := by
  have same : (f.has .required && f.issues.any fun i => (Path.text i.path).isEmpty) = true ↔
      LookMissing f.issues := by
    simp [LookMissing, FieldReport.has]
  unfold advice
  split
  next missing =>
    rw [if_pos (same.mp missing)]
    rfl
  next other =>
    rw [if_neg (mt same.mpr other)]
    rfl

theorem head?_intercalate_cons (sep a : String) (items : List String) (nonempty : a ≠ "") :
    (sep.intercalate (a :: items)).toList.head? = a.toList.head? := by
  have letters : a.toList ≠ [] := by simpa using nonempty
  cases items with
  | nil => rw [String.intercalate_singleton]
  | cons b items =>
    rw [String.intercalate_cons_cons, String.toList_append, String.toList_append, List.append_assoc,
      List.head?_append_of_ne_nil _ letters]

theorem failure_ne_absence (p : Payload) (f : FieldReport) : p.failure f ≠ p.absence := by
  have failed : (p.failure f).toList.head? = some 'R' := by
    unfold failure
    simp only [List.cons_append, List.nil_append]
    obtain ⟨rest, kept⟩ := exists_firsts_cons "Request body validation failed." _
    rw [kept, head?_intercalate_cons _ _ _ (by decide)]
    rfl
  have absent : p.absence.toList.head? = some 'T' := by
    unfold absence
    rw [String.toList_append]
    rfl
  intro same
  rw [same, absent] at failed
  contradiction

def Obscures (p : Payload) (l : Leniency) (v : Json) : Prop := ∃ s, p.shape = some s ∧ s.Obscures l.checks v

end Payload

/-- The report has found something wrong with the body, be it there or not. -/
def Report.BodyFails (r : Report) : Prop := ∃ f, r.body = some f ∧ f.valid = false

namespace Endpoint

variable {e : Endpoint} {p : Payload} {id : String} {l : Leniency} {params : Table Json} {body : Option Json}
  {v : Json} {f : FieldReport}

theorem looksMissing_of_missing (expected : e.payload = some p) (reported : e.checkBody l none = some f) :
    LookMissing f.issues := by
  simp only [checkBody, expected] at reported
  split at reported
  · obtain rfl := Option.some.inj reported
    exact ⟨⟨_, List.mem_singleton_self _, rfl⟩, _, List.mem_singleton_self _, rfl⟩
  · contradiction

theorem looksMissing_iff_obscures (expected : e.payload = some p) (reported : e.checkBody l (some v) = some f) :
    LookMissing f.issues ↔ p.Obscures l v := by
  simp only [checkBody, expected] at reported
  split at reported
  · contradiction
  · obtain rfl := Option.some.inj reported
    cases declared : p.shape with
    | none => simp [declared, LookMissing, Payload.Obscures]
    | some s => simp [declared, Payload.Obscures, Shape.obscures_iff]

theorem looksMissing_iff (expected : e.payload = some p) (reported : e.checkBody l body = some f) :
    LookMissing f.issues ↔ ∀ v, body = some v → p.Obscures l v := by
  cases body with
  | none => simp [looksMissing_of_missing expected reported]
  | some v => simp [looksMissing_iff_obscures expected reported]

theorem bodyGuidance_eq_some_iff {text : String} (expected : e.payload = some p) :
    (e.validate id l params body).1.guidance.body = some text ↔
      ∃ f, (e.validate id l params body).1.body = some f ∧ f.valid = false ∧ p.advice f = text := by
  have advice (f : FieldReport) : e.bodyAdvice f = p.advice f := by
    rw [bodyAdvice, expected]
  have guidance : (e.validate id l params body).1.guidance.body =
      ((e.validate id l params body).1.body.filter (!·.valid)).map e.bodyAdvice := rfl
  simp [guidance, advice, Option.filter_eq_some_iff, and_assoc]

/-- The body is said to be missing if it fails and either is missing or looks so. -/
theorem said_missing_iff (expected : e.payload = some p) :
    (e.validate id l params body).1.guidance.body = some p.absence ↔
      (e.validate id l params body).1.BodyFails ∧ ∀ v, body = some v → p.Obscures l v := by
  have reported : (e.validate id l params body).1.body = e.checkBody l body := rfl
  have tells (f : FieldReport) : p.advice f = p.absence ↔ LookMissing f.issues := by
    rw [Payload.advice_eq]
    split
    next missing => exact iff_of_true rfl missing
    next other => exact iff_of_false (p.failure_ne_absence f) other
  simp only [bodyGuidance_eq_some_iff expected, tells, Report.BodyFails, reported]
  constructor
  · rintro ⟨f, found, failed, missing⟩
    exact ⟨⟨f, found, failed⟩, (looksMissing_iff expected found).mp missing⟩
  · rintro ⟨⟨f, found, failed⟩, obscured⟩
    exact ⟨f, found, failed, (looksMissing_iff expected found).mpr obscured⟩

theorem bodyFails_of_obscures (expected : e.payload = some p) (checked : l.skipTypes = false)
    (obscured : p.Obscures l v) : (e.validate id l params (some v)).1.BodyFails := by
  obtain ⟨s, declared, obscures⟩ := obscured
  obtain ⟨⟨issue, found, -⟩, -⟩ := Shape.obscures_iff.mp obscures
  have reported : (e.validate id l params (some v)).1.body =
      some (e.uncheckedBody.judge (Shape.validate l.checks s v)) := by
    change e.checkBody l (some v) = _
    simp [checkBody, expected, checked, declared]
  refine ⟨_, reported, ?_⟩
  rw [FieldReport.valid_judge, List.isEmpty_eq_false_iff]
  exact List.ne_nil_of_mem found

end Endpoint

namespace Discovery

/-- The guidance says that the body is missing exactly if the body fails and is missing, or was sent and its failures
obscure it. Otherwise it says what fails. -/
theorem body_advice_tells {d : Discovery} {e : Endpoint} {p : Payload} {id : String} (found : d.findById id = .ok e)
    (expected : e.payload = some p) (l : Leniency) (params : Table Json) (body : Option Json) :
    ∃ report after, d.validate id l params body = .ok (report, after) ∧
      (report.guidance.body = some p.absence ↔ report.BodyFails ∧ ∀ v, body = some v → p.Obscures l v) ∧
      (∀ v f, body = some v → report.body = some f → f.valid = false → ¬ p.Obscures l v →
        report.guidance.body = some (p.failure f)) ∧
      ((∀ s v, p.shape = some s → body = some v → s.Separate v) →
        (report.guidance.body = some p.absence ↔ report.BodyFails ∧ body = none)) := by
  have said : (e.validate id l params body).1.guidance.body = some p.absence ↔ _ :=
    Endpoint.said_missing_iff expected
  refine ⟨_, _, validate_of_found found l params body, said, ?failure, ?separate⟩
  case failure =>
    rintro v f rfl reported failed clear
    have other : ¬ LookMissing f.issues := mt (Endpoint.looksMissing_iff_obscures expected reported).mp clear
    refine (Endpoint.bodyGuidance_eq_some_iff expected).mpr ⟨f, reported, failed, ?_⟩
    rw [Payload.advice_eq, if_neg other]
  case separate =>
    intro separate
    refine said.trans (and_congr_right fun _ => ⟨fun obscured => ?_, fun missing v sent => ?_⟩)
    · by_contra sent
      obtain ⟨v, sent⟩ := Option.ne_none_iff_exists'.mp sent
      obtain ⟨s, declared, obscures⟩ := obscured v sent
      exact Shape.not_obscures_of_separate (separate s v declared sent) obscures
    · simp [missing] at sent

def payments : Discovery where
  document := { paths := [("/payments", { post := some {
    operationId := some "addPayment"
    requestBody := some (.inline { required := true, content := [("application/json", {
      schema := some (.inline { type := some (.one .object), required := ["amount"] } {
        oneOf := [.inline { required := ["card"] } {}, .inline { required := ["iban"] } {}] }) })] }) } })] }

/-- Without an amount and an account, a payment looks missing. With an amount it does not. -/
theorem exists_payment : ∃ e p, payments.findById "addPayment" = .ok e ∧ e.payload = some p ∧
    p.absence = "This operation requires a request body. Supported content types: application/json." ∧
    p.Obscures {} (.obj []) ∧ ¬ p.Obscures {} (.obj [("amount", .int 1)]) := by
  obtain ⟨e, p, found, expected, absence, s, declared, missing, given⟩ : ∃ e p,
      payments.findById "addPayment" = .ok e ∧ e.payload = some p ∧
      p.absence = "This operation requires a request body. Supported content types: application/json." ∧
      ∃ s, p.shape = some s ∧ LookMissing (s.validate {} (.obj [])) ∧
        ¬ LookMissing (s.validate {} (.obj [("amount", .int 1)])) :=
    ⟨_, _, rfl, rfl, rfl, _, rfl, by decide, by decide⟩
  refine ⟨e, p, found, expected, absence, ⟨s, declared, Shape.obscures_iff.mpr missing⟩, ?_⟩
  rintro ⟨t, same, obscures⟩
  obtain rfl := Option.some.inj (declared.symm.trans same)
  exact given (Shape.obscures_iff.mp obscures)

theorem empty_payment_said_missing : ∃ e p, payments.findById "addPayment" = .ok e ∧ e.payload = some p ∧
    (∃ report after, payments.validate "addPayment" {} [] (some (.obj [])) = .ok (report, after) ∧
      report.guidance.body =
        some "This operation requires a request body. Supported content types: application/json.") ∧
    ∃ report after, payments.validate "addPayment" {} [] (some (.obj [("amount", .int 1)])) =
      .ok (report, after) ∧ report.guidance.body ≠ some p.absence := by
  obtain ⟨e, p, found, expected, absence, obscured, clear⟩ := exists_payment
  obtain ⟨report, after, validated, said, -⟩ := body_advice_tells found expected {} [] (some (.obj []))
  obtain ⟨report', after', validated', said', -⟩ :=
    body_advice_tells found expected {} [] (some (.obj [("amount", .int 1)]))
  have fails : report.BodyFails := by
    obtain ⟨rfl, -⟩ := Prod.mk.inj (Except.ok.inj ((validate_of_found found _ _ _).symm.trans validated))
    exact Endpoint.bodyFails_of_obscures expected rfl obscured
  have missing : report.guidance.body = some p.absence := by
    refine said.mpr ⟨fails, fun v sent => ?_⟩
    rwa [← Option.some.inj sent]
  rw [absence] at missing
  exact ⟨e, p, found, expected, ⟨report, after, validated, missing⟩, report', after', validated',
    fun missing' => clear ((said'.mp missing').2 _ rfl)⟩

/-- The guidance does not tell a missing body from one that was sent. -/
theorem missing_body_mistaken : ¬ ∀ (d : Discovery) (e : Endpoint) (p : Payload) (id : String) (l : Leniency)
    (params : Table Json) (body : Option Json) (report : Report) (after : Table Json),
    d.findById id = .ok e → e.payload = some p → d.validate id l params body = .ok (report, after) →
    (report.guidance.body = some p.absence ↔ report.BodyFails ∧ body = none) := by
  intro told
  obtain ⟨e, p, found, expected, -, obscured, -⟩ := exists_payment
  have fails : (e.validate "addPayment" {} [] (some (.obj []))).1.BodyFails :=
    Endpoint.bodyFails_of_obscures expected rfl obscured
  have missing := (Endpoint.said_missing_iff expected).mpr
    ⟨fails, fun v sent => Option.some.inj sent ▸ obscured⟩
  have never := (told payments e p _ _ _ _ _ _ found expected (validate_of_found found _ _ _)).mp missing
  exact Option.some_ne_none _ never.2

end Discovery
end ApiAtlas
