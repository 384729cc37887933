import ApiAtlas.Proofs.Shape.Loosening
import ApiAtlas.Proofs.Validation.Verdict

/-! Requests under more lenient options. The turns of the inputs depend on coercion alone, so that the same
values are checked against the same shapes. Fewer checks remain of each shape, which keeps every request
valid unless a `oneOf` or a `not` counts a part that was excluded by a check left out. -/
namespace ApiAtlas

/-- The second options convert values in the same way and leave out what the first ones leave out. -/
structure Leniency.Relaxes (l l' : Leniency) : Prop where
  coercion : l'.allowCoercion = l.allowCoercion
  required : l.skipRequired = true → l'.skipRequired = true
  constraints : l.skipConstraints = true → l'.skipConstraints = true
  types : l.skipTypes = true → l'.skipTypes = true

theorem Leniency.Relaxes.checks {l l' : Leniency} (relaxed : l.Relaxes l') :
    l.checks.Relaxes l'.checks where
  required := by
    simp only [Leniency.checks, Bool.not_eq_true', Bool.eq_false_iff]
    exact mt relaxed.required
  constraints := by
    simp only [Leniency.checks, Bool.not_eq_true', Bool.eq_false_iff]
    exact mt relaxed.constraints

/-- An object with one declared member has no issues if the member has none. -/
@[simp] theorem Shape.isValid_singleField (c : Checks) (name : String) (s : Shape) (v : Json) :
    isValid c (singleField name s false) (.obj [(name, v)]) = isValid c s v := by
  have typed : isValid c (.simple { type := some .object } {}) (.obj [(name, v)]) = true := by
    rw [isValid, validate, issues, List.isEmpty_iff]
    simp [nodeIssues, Json.isNull, Json.hasType, contentIssues, missingIssues, memberIssues, partIssues,
      tableIssues, additionalIssues]
  rw [Bool.eq_iff_iff, singleField]
  simp [isValid_simple, typed, NodeParts.Admits, NodeParts.rule]

namespace Turn

variable {l : Leniency} {t : Turn}

theorem passes_missing_iff (missing : t.supplied = none) :
    t.Passes l ↔ (t.input.required = true → l.skipRequired = true) := by
  simp only [Passes, report?, Input.check?, missing]
  cases t.input.required <;> cases l.skipRequired <;> simp

theorem passes_supplied_iff {v : Json} (supplied : t.supplied = some v) :
    t.Passes l ↔ l.skipTypes = true ∨
      Shape.isValid l.checks t.input.shape (t.input.adapt l v) = true := by
  simp only [Passes, report?_supplied v supplied, Option.some.injEq, forall_eq', Input.checkValue]
  cases l.skipTypes with
  | true => simp [Input.unchecked]
  | false =>
    rw [← Shape.isValid_singleField _ t.input.name]
    simp [Shape.isValid, Input.valueIssues]

end Turn

namespace Endpoint

/-- Nothing is missing that must be there, and no body is sent where none is expected. -/
structure Complete (e : Endpoint) (l : Leniency) (params : Table Json) (body : Option Json) : Prop where
  inputs : ∀ t ∈ e.turns l params, t.supplied = none → t.input.required = true → l.skipRequired = true
  payload : ∀ p, e.payload = some p → body = none → p.required = true → l.skipRequired = true
  expected : e.payload = none → body = none

/-- The shapes that decide on a request, each with the value that it is applied to. -/
inductive Decides (e : Endpoint) (l : Leniency) (params : Table Json) (body : Option Json) :
    Shape → Json → Prop
  | input {t : Turn} {v : Json} : t.Last (e.turns l params) → t.supplied = some v →
    Decides e l params body t.input.shape (t.input.adapt l v)
  | body {p s v} : e.payload = some p → p.shape = some s → body = some v → Decides e l params body s v

variable {e : Endpoint} {id : String} {l l' : Leniency} {params : Table Json} {body : Option Json}

theorem bodyPasses_iff : e.BodyPasses l body ↔
    (∀ p, e.payload = some p → body = none → p.required = true → l.skipRequired = true) ∧
    (e.payload = none → body = none) ∧
    (l.skipTypes = true ∨ ∀ p, e.payload = some p → ∀ s, p.shape = some s → ∀ v, body = some v →
      Shape.isValid l.checks s v = true) := by
  unfold BodyPasses checkBody
  cases e.payload with
  | none => cases body <;> simp
  | some p =>
    cases body with
    | none =>
      cases required : p.required <;> cases l.skipRequired <;> simp [required]
    | some v =>
      cases l.skipTypes with
      | true => simp
      | false => cases found : p.shape <;> simp [found, Shape.isValid]

/-- A request is valid if it is complete and every deciding shape accepts its value. -/
theorem valid_iff_complete : (e.validate id l params body).1.valid = true ↔
    e.Complete l params body ∧
      (l.skipTypes = true ∨ ∀ s v, e.Decides l params body s v → Shape.isValid l.checks s v = true) := by
  rw [valid_iff_last_turns, bodyPasses_iff]
  constructor
  · rintro ⟨missing, last, payload, expected, checked⟩
    refine ⟨⟨fun t member absent => ?_, payload, expected⟩, ?_⟩
    · exact (Turn.passes_missing_iff absent).mp (missing t member absent)
    · by_cases types : l.skipTypes = true
      · exact .inl types
      · refine .inr ?_
        rintro _ _ (⟨final, supplied⟩ | ⟨found, shape, given⟩)
        · exact ((Turn.passes_supplied_iff supplied).mp (last _ final)).resolve_left types
        · exact checked.resolve_left types _ found _ shape _ given
  · rintro ⟨⟨inputs, payload, expected⟩, decided⟩
    refine ⟨?_, ?_, payload, expected, ?_⟩
    · exact fun t member absent => (Turn.passes_missing_iff absent).mpr (inputs t member absent)
    · intro t final
      cases supplied : t.supplied with
      | none => exact (Turn.passes_missing_iff supplied).mpr (inputs t final.mem supplied)
      | some v =>
        exact (Turn.passes_supplied_iff supplied).mpr
          (decided.imp_right fun accepted => accepted _ _ (.input final supplied))
    · exact decided.imp_right fun accepted p found s shape v given =>
        accepted s v (.body found shape given)

/-- Which values the inputs read depends on coercion alone. -/
theorem turns_congr (coercion : l'.allowCoercion = l.allowCoercion) :
    e.turns l' params = e.turns l params := by
  have adapt (i : Input) : i.adapt l' = i.adapt l := by
    funext v
    rw [Input.adapt, Input.adapt, coercion]
  have same (inputs : List Input) : ∀ params, turnsOf l' inputs params = turnsOf l inputs params := by
    induction inputs with
    | nil => exact fun _ => rfl
    | cons i rest ih =>
      intro params
      rw [turnsOf, turnsOf, ih, Input.writeBack, Input.writeBack, adapt]
  exact same e.inputs params

theorem Complete.of_relaxes (relaxed : l.Relaxes l') (complete : e.Complete l params body) :
    e.Complete l' params body where
  inputs t member missing required := by
    rw [turns_congr relaxed.coercion] at member
    exact relaxed.required (complete.inputs t member missing required)
  payload p found missing required := relaxed.required (complete.payload p found missing required)
  expected := complete.expected

/-- The same shapes decide on the same values. -/
theorem decides_iff (coercion : l'.allowCoercion = l.allowCoercion) {s : Shape} {v : Json} :
    e.Decides l' params body s v ↔ e.Decides l params body s v := by
  have adapt (i : Input) (w : Json) : i.adapt l' w = i.adapt l w := by
    rw [Input.adapt, Input.adapt, coercion]
  constructor
  · rintro (⟨last, supplied⟩ | ⟨found, shape, given⟩)
    · rw [adapt]
      exact .input (turns_congr coercion ▸ last) supplied
    · exact .body found shape given
  · rintro (⟨last, supplied⟩ | ⟨found, shape, given⟩)
    · rw [← adapt]
      exact .input ((turns_congr coercion).symm ▸ last) supplied
    · exact .body found shape given

/-- A valid request stays valid under more lenient options, unless types are checked and leaving checks out
backfires on a value that decides. It always stays valid if no shape counts. -/
theorem valid_under_relaxed_iff (relaxed : l.Relaxes l')
    (valid : (e.validate id l params body).1.valid = true) :
    ((e.validate id l' params body).1.valid = true ↔ l'.skipTypes = true ∨
      ∀ s v, e.Decides l params body s v → ¬ Shape.Backfires l.checks l'.checks s s v) ∧
    ((∀ s v, e.Decides l params body s v → ¬ s.Counts) →
      (e.validate id l' params body).1.valid = true) := by
  obtain ⟨complete, decided⟩ := valid_iff_complete.mp valid
  have verdict : (e.validate id l' params body).1.valid = true ↔ l'.skipTypes = true ∨
      ∀ s v, e.Decides l params body s v → ¬ Shape.Backfires l.checks l'.checks s s v := by
    rw [valid_iff_complete, and_iff_right (complete.of_relaxes relaxed)]
    simp only [decides_iff relaxed.coercion]
    by_cases types : l'.skipTypes = true
    · simp [types]
    · have accepted := decided.resolve_left (mt relaxed.types types)
      refine or_congr_right (forall_congr' fun s => forall_congr' fun v => ?_)
      exact imp_congr_right fun decides =>
        Shape.isValid_iff_not_backfires relaxed.checks (.refl s) (accepted s v decides)
  refine ⟨verdict, fun plain => verdict.mpr (.inr fun s v decides backfires => ?_)⟩
  exact plain s v decides backfires.counts

end Endpoint

def Discovery.wordButOne : Discovery where
  document := { paths := [("/words", { post := some {
    operationId := some "addWord"
    requestBody := some (.inline { required := true, content := [("application/json", { schema := some (
      .inline { type := some (.one .string) } { not := some (.inline { enum := [.str "x"] } {}) }) })] }) } })] }

/-- A valid text stays valid when types are no longer checked. -/
theorem word_valid_without_types : ∃ e, Discovery.wordButOne.findById "addWord" = .ok e ∧
    (e.validate "addWord" {} [] (some (.str "y"))).1.valid = true ∧
    (e.validate "addWord" { skipTypes := true } [] (some (.str "y"))).1.valid = true := by
  obtain ⟨e, found⟩ : ∃ e, Discovery.wordButOne.findById "addWord" = .ok e := ⟨_, rfl⟩
  have valid : (e.validate "addWord" {} [] (some (.str "y"))).1.valid = true := by
    cases found
    decide
  have relaxed : Leniency.Relaxes {} { skipTypes := true } := ⟨rfl, id, id, fun _ => rfl⟩
  exact ⟨e, found, valid, (Endpoint.valid_under_relaxed_iff relaxed valid).1.mpr (.inl rfl)⟩

/-- Another text is valid until lists of values are ignored: then every text is the excluded one. -/
theorem other_word_invalid_without_lists : ¬ ∀ (d : Discovery) (e : Endpoint) (id : String)
    (l l' : Leniency) (params : Table Json) (body : Option Json), d.findById id = .ok e → l.Relaxes l' →
    (e.validate id l params body).1.valid = true → (e.validate id l' params body).1.valid = true := by
  intro claim
  obtain ⟨e, found⟩ : ∃ e, Discovery.wordButOne.findById "addWord" = .ok e := ⟨_, rfl⟩
  have kept := claim _ _ "addWord" {} { skipConstraints := true } [] (some (.str "y")) found
    ⟨rfl, id, fun _ => rfl, id⟩
  cases found
  exact absurd (kept (by decide)) (by decide)

end ApiAtlas
