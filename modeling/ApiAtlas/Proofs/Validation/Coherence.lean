import ApiAtlas.Proofs.Validation.Missing
import Mathlib.Data.List.Perm.Subperm

/-! Reports agree with themselves. Whether a field is valid is noted on each path of its check; the verdict, the
count, the summary, the guidance and the suggestions are each made from the reports on inputs and body in a way of
their own. All of them point to the same fields: those that have issues. -/
namespace ApiAtlas

def FieldReport.Agrees (f : FieldReport) : Prop := f.valid = true ↔ f.issues = []

theorem FieldReport.agrees_fail (f : FieldReport) (issue : Issue) : (f.fail issue).Agrees := by
  simp [Agrees]

theorem FieldReport.agrees_judge (f : FieldReport) (issues : List Issue) : (f.judge issues).Agrees := by
  simp [Agrees]

theorem Input.agrees_check? {i : Input} {l : Leniency} {supplied : Option Json} {f : FieldReport}
    (reported : i.check? l supplied = some f) : f.Agrees := by
  cases supplied with
  | none =>
    simp only [check?] at reported
    split at reported
    · exact Option.some.inj reported ▸ i.unchecked.agrees_fail i.missing
    · contradiction
  | some v =>
    obtain rfl := Option.some.inj reported
    unfold checkValue
    split
    · exact iff_of_true rfl rfl
    · exact i.unchecked.agrees_judge _

theorem Endpoint.agrees_checkBody {e : Endpoint} {l : Leniency} {body : Option Json} {f : FieldReport}
    (reported : e.checkBody l body = some f) : f.Agrees := by
  unfold checkBody at reported
  split at reported
  · exact Option.some.inj reported ▸ e.uncheckedBody.agrees_fail _
  · split at reported
    · exact Option.some.inj reported ▸ e.uncheckedBody.agrees_fail _
    · contradiction
  · split at reported
    · contradiction
    · exact Option.some.inj reported ▸ e.uncheckedBody.agrees_judge _
  · contradiction

theorem mem_invalidFields {inputs : Table FieldReport} {name : String} {f : FieldReport} :
    (name, f) ∈ invalidFields inputs ↔ (name, f) ∈ inputs ∧ f.valid = false := by
  simp [invalidFields]

/-- How a summary states the number of errors. -/
inductive ReportGuidance.States : Nat → String → Prop
  | none : States 0 "Request validation passed successfully"
  | one : States 1 "Request validation failed with 1 error"
  | several {n} : 1 < n → States n ("Request validation failed with " ++ toString n ++ " errors")

namespace ReportGuidance

theorem summaryText_zero_ne (n : Nat) : summaryText 0 ≠ summaryText (n + 1) := by
  intro same
  have letters := congrArg (fun s => s.toList[19]?) same
  simp [summaryText] at letters

theorem summaryText_one_ne (n : Nat) : summaryText 1 ≠ summaryText (n + 2) := by
  intro same
  have lasts := congrArg (fun s => s.toList.reverse.head?) same
  simp [summaryText] at lasts

/-- A summary tells the number of errors. -/
theorem summaryText_injective {m n : Nat} (same : summaryText m = summaryText n) : m = n := by
  match m, n with
  | 0, 0 | 1, 1 => rfl
  | m + 2, n + 2 =>
    have digits : Nat.toDigits 10 (m + 2) = Nat.toDigits 10 (n + 2) := by
      simpa [summaryText, Nat.repr_eq_ofList_toDigits, String.ofList_inj] using same
    have number := congrArg (Nat.ofDigitChars 10 · 0) digits
    simpa only [Nat.ofDigitChars_ten_toDigits] using number
  | 0, n + 1 => exact absurd same (summaryText_zero_ne n)
  | m + 1, 0 => exact absurd same.symm (summaryText_zero_ne m)
  | 1, n + 2 => exact absurd same (summaryText_one_ne n)
  | m + 2, 1 => exact absurd same.symm (summaryText_one_ne m)

theorem summaryText_several {n : Nat} (several : 1 < n) :
    summaryText n = "Request validation failed with " ++ toString n ++ " errors" := by
  have none : n ≠ 0 := by omega
  have one : n ≠ 1 := by omega
  simp [summaryText, none, one, String.append_assoc]

theorem states_iff {n : Nat} {s : String} : States n s ↔ s = summaryText n := by
  constructor
  · rintro (_ | _ | several)
    · rfl
    · rfl
    · exact (summaryText_several several).symm
  · rintro rfl
    match n with
    | 0 => exact .none
    | 1 => exact .one
    | n + 2 =>
      have several : 1 < n + 2 := by omega
      exact summaryText_several several ▸ .several several

theorem states_of {n : Nat} {e : Endpoint} {r : Report} : States n (of e r).summary ↔ n = r.errorCount := by
  rw [states_iff]
  exact ⟨fun same => (summaryText_injective same).symm, fun same => same ▸ rfl⟩

theorem keys_inputs_of (e : Endpoint) (r : Report) :
    (of e r).inputs.keys = Table.keys (r.inputs.filter fun p => p.2.valid = false) := by
  simp [of, Table.keys, invalidFields]

theorem isSome_body_of {e : Endpoint} {r : Report} :
    (of e r).body.isSome = true ↔ ∃ f, r.body = some f ∧ f.valid = false := by
  rw [of]
  cases r.body with
  | none => simp
  | some f => cases valid : f.valid <;> simp [Option.filter, valid]

end ReportGuidance

namespace Report

/-- What is suggested about an issue of a parameter: a sentence for each kind of issue. -/
inductive Suggests (name : String) (f : FieldReport) (issue : Issue) : String → Prop
  | add : issue.kind = .required →
    Suggests name f issue ("Add the required parameter '" ++ name ++ "' to your request")
  | convert : issue.kind = .type →
    Suggests name f issue ("Convert parameter '" ++ name ++ "' to the correct type (" ++ f.expected ++ ")")
  | adjust : issue.kind ∈ [.range, .length, .pattern, .enum, .items] →
    Suggests name f issue ("Adjust parameter '" ++ name ++ "' to meet constraints: " ++ f.constraints)
  | fix : issue.kind ∉ [.required, .type, .range, .length, .pattern, .enum, .items] →
    Suggests name f issue ("Fix validation error for parameter '" ++ name ++ "': " ++ issue.message)

inductive SuggestsBody (e : Endpoint) (f : FieldReport) : String → Prop
  | remove : f.has .unexpectedBody = true →
    SuggestsBody e f "Remove the request body; this operation does not accept one"
  | review : f.has .unexpectedBody = false →
    SuggestsBody e f "Review request body structure and ensure it matches the expected schema"
  | refer {p} : f.has .unexpectedBody = false → e.payload = some p → p.examples ≠ [] →
    SuggestsBody e f "Refer to the provided examples for correct request body format"

/-- The parts of a report on a request for an endpoint agree. -/
structure Coherent (e : Endpoint) (r : Report) : Prop where
  named : r.inputs.keys.Nodup
  fields : ∀ f, (∃ name, (name, f) ∈ r.inputs) ∨ r.body = some f → (f.valid = true ↔ f.issues = [])
  counted : r.valid = true ↔ r.errorCount = 0
  verdict : r.valid = true ↔
    (∀ name f, (name, f) ∈ r.inputs → f.valid = true) ∧ ∀ f, r.body = some f → f.valid = true
  summarized : ∀ n, ReportGuidance.States n r.guidance.summary ↔ n = r.errorCount
  /-- The invalid inputs are explained, in the order of the reports. -/
  explained : r.guidance.inputs.keys = Table.keys (r.inputs.filter fun p => p.2.valid = false)
  bodyExplained : r.guidance.body.isSome = true ↔ ∃ f, r.body = some f ∧ f.valid = false
  silent : r.suggestions = [] ↔ r.valid = true
  distinct : r.suggestions.Nodup
  suggested : ∀ name f, (name, f) ∈ r.inputs → f.valid = false →
    ∀ issue ∈ f.issues, ∃ s ∈ r.suggestions, Suggests name f issue s
  bodySuggested : ∀ f, r.body = some f → f.valid = false →
    (∃ s ∈ r.suggestions, SuggestsBody e f s) ∧ ∀ s, SuggestsBody e f s → s ∈ r.suggestions
  /-- Nothing else is suggested, but for a general remark beside some other suggestions. -/
  deserved : ∀ s ∈ r.suggestions,
    (∃ name f, (name, f) ∈ r.inputs ∧ f.valid = false ∧ ∃ issue ∈ f.issues, Suggests name f issue s) ∨
    (∃ f, r.body = some f ∧ f.valid = false ∧ SuggestsBody e f s) ∨
    2 < r.suggestions.length ∧ s = "Consider using request validation tools or API documentation for guidance"

theorem suggests_iff {name s : String} {f : FieldReport} {issue : Issue} :
    Suggests name f issue s ↔ suggestion name f issue = s := by
  unfold suggestion
  constructor
  · rintro (kind | kind | kind | kind)
    · rw [kind]
    · rw [kind]
    · cases found : issue.kind <;> simp [found] at kind ⊢
    · cases found : issue.kind <;> simp [found] at kind ⊢
  · rintro rfl
    split
    next kind => exact .add kind
    next kind => exact .convert kind
    all_goals next kind => first | exact .adjust (by simp [kind]) | exact .fix (by simp [kind])

theorem suggestsBody_iff {e : Endpoint} {s : String} {f : FieldReport} :
    SuggestsBody e f s ↔ s ∈ bodySuggestions e f := by
  unfold bodySuggestions
  constructor
  · rintro (unexpected | expected | ⟨expected, declared, given⟩)
    · simp [unexpected]
    · simp [expected]
    · simp [expected, declared, given]
  · split
    next unexpected =>
      intro called
      exact List.mem_singleton.mp called ▸ .remove unexpected
    next expected =>
      have expected : f.has .unexpectedBody = false := by simpa using expected
      intro called
      rcases List.mem_append.mp called with called | called
      · exact List.mem_singleton.mp called ▸ .review expected
      · split at called
        next given =>
          obtain ⟨p, declared, given⟩ : ∃ p, e.payload = some p ∧ p.examples ≠ [] := by
            cases declared : e.payload <;> simp [declared] at given ⊢
            exact given
          exact List.mem_singleton.mp called ▸ .refer expected declared given
        next => contradiction

theorem exists_suggestsBody (e : Endpoint) (f : FieldReport) : ∃ s, SuggestsBody e f s := by
  cases unexpected : f.has .unexpectedBody with
  | true => exact ⟨_, .remove unexpected⟩
  | false => exact ⟨_, .review unexpected⟩

/-- What the invalid fields call for, the inputs first. -/
def calledFor (e : Endpoint) (r : Report) : List String :=
  ((invalidFields r.inputs).flatMap fun (name, f) => f.issues.map (suggestion name f))
    ++ ((r.body.filter (!·.valid)).map (bodySuggestions e)).getD []

variable {e : Endpoint} {r : Report} {s : String}

theorem mem_calledFor : s ∈ r.calledFor e ↔
    (∃ name f, (name, f) ∈ r.inputs ∧ f.valid = false ∧ ∃ issue ∈ f.issues, Suggests name f issue s) ∨
    ∃ f, r.body = some f ∧ f.valid = false ∧ SuggestsBody e f s := by
  rw [calledFor, List.mem_append]
  refine or_congr ?_ ?_
  · simp only [List.mem_flatMap, Prod.exists, mem_invalidFields, List.mem_map, and_assoc, suggests_iff]
  · cases r.body with
    | none => simp
    | some f => cases valid : f.valid <;> simp [Option.filter, valid, suggestsBody_iff]

theorem mem_suggestionsFor (invalid : r.valid = false) : s ∈ r.suggestionsFor e ↔
    s ∈ r.calledFor e ∨ 2 < (firsts (r.calledFor e)).length ∧
      s = "Consider using request validation tools or API documentation for guidance" := by
  have unfolded : r.suggestionsFor e =
      if 2 < (firsts (r.calledFor e)).length then
        firsts (firsts (r.calledFor e)
          ++ ["Consider using request validation tools or API documentation for guidance"])
      else firsts (r.calledFor e) := by
    rw [suggestionsFor, invalid]
    rfl
  rw [unfolded]
  split
  next many => simp [mem_firsts, many]
  next few => simp [mem_firsts, few]

theorem nodup_suggestionsFor : (r.suggestionsFor e).Nodup := by
  unfold suggestionsFor
  split
  · exact List.nodup_nil
  · dsimp only
    split <;> exact nodup_firsts _

theorem suggestionsFor_of_valid (valid : r.valid = true) : r.suggestionsFor e = [] := by
  rw [suggestionsFor, if_pos valid]

/-- More sentences are suggested than are called for, or as many. -/
theorem length_firsts_calledFor (invalid : r.valid = false) :
    (firsts (r.calledFor e)).length ≤ (r.suggestionsFor e).length := by
  have among : firsts (r.calledFor e) ⊆ r.suggestionsFor e :=
    fun s called => (mem_suggestionsFor invalid).mpr (.inl (mem_firsts.mp called))
  exact (List.subperm_of_subset (nodup_firsts _) among).length_le

/-- What is suggested is called for, but for the general remark. -/
theorem calledFor_or_many (suggested : s ∈ r.suggestionsFor e) :
    s ∈ r.calledFor e ∨ 2 < (r.suggestionsFor e).length ∧
      s = "Consider using request validation tools or API documentation for guidance" := by
  cases valid : r.valid with
  | true => simp [suggestionsFor_of_valid valid] at suggested
  | false =>
    refine ((mem_suggestionsFor valid).mp suggested).imp_right fun ⟨many, general⟩ => ⟨?_, general⟩
    exact Nat.lt_of_lt_of_le many (length_firsts_calledFor valid)

theorem invalid_of_field {f : FieldReport} (counted : r.valid = true ↔ r.errorCount = 0)
    (reported : (∃ name, (name, f) ∈ r.inputs) ∨ r.body = some f) (invalid : f.valid = false) :
    r.valid = false := by
  rw [← Bool.not_eq_true, counted, r.errorCount_eq_zero_iff]
  rintro ⟨inputs, body⟩
  have valid : f.valid = true := reported.elim (fun ⟨name, member⟩ => inputs name f member) (body f)
  rw [invalid] at valid
  contradiction

/-- An invalid field calls for something. -/
theorem exists_calledFor (agrees : ∀ f, (∃ name, (name, f) ∈ r.inputs) ∨ r.body = some f → f.Agrees)
    (errors : r.errorCount ≠ 0) : ∃ s, s ∈ r.calledFor e := by
  by_contra silent
  refine errors (r.errorCount_eq_zero_iff.mpr ⟨fun name f member => ?_, fun f reported => ?_⟩)
  · by_contra invalid
    have issues : f.issues ≠ [] := fun none => invalid ((agrees f (.inl ⟨name, member⟩)).mpr none)
    obtain ⟨issue, inside⟩ := List.exists_mem_of_ne_nil _ issues
    exact silent ⟨_, mem_calledFor.mpr (.inl ⟨name, f, member, by simpa using invalid, issue, inside,
      suggests_iff.mpr rfl⟩)⟩
  · by_contra invalid
    obtain ⟨s, called⟩ := exists_suggestsBody e f
    exact silent ⟨s, mem_calledFor.mpr (.inr ⟨f, reported, by simpa using invalid, called⟩)⟩

end Report

namespace Endpoint

variable {e : Endpoint} {id : String} {l : Leniency} {params : Table Json} {body : Option Json}

/-- On no path is a field noted to be valid that has issues, or the other way round. -/
theorem agrees_validate {f : FieldReport}
    (reported : (∃ name, (name, f) ∈ (e.validate id l params body).1.inputs) ∨
      (e.validate id l params body).1.body = some f) : f.Agrees := by
  rcases reported with ⟨name, member⟩ | found
  · rw [inputs_validate, Table.mem_ofPairs_iff] at member
    obtain ⟨t, -, -, -, -, answered, -⟩ := Turn.of_last_entry member
    exact Input.agrees_check? answered
  · exact agrees_checkBody found

/-- The report on a request is coherent, whatever the endpoint, the parameters, the body and the leniency. -/
theorem coherent_validate (e : Endpoint) (id : String) (l : Leniency) (params : Table Json)
    (body : Option Json) : (e.validate id l params body).1.Coherent e := by
  have table := inputs_validate e id l params body
  have agrees (f : FieldReport) (reported : (∃ name, (name, f) ∈ (e.validate id l params body).1.inputs) ∨
      (e.validate id l params body).1.body = some f) : f.Agrees := agrees_validate reported
  generalize made : (e.validate id l params body).1 = r at table agrees ⊢
  have counted : r.valid = true ↔ r.errorCount = 0 := by
    rw [← made]
    exact beq_iff_eq
  have guidance : r.guidance = .of e r := by rw [← made]; rfl
  have suggestions : r.suggestions = r.suggestionsFor e := by rw [← made]; rfl
  have told {f : FieldReport} (reported : (∃ name, (name, f) ∈ r.inputs) ∨ r.body = some f)
      (invalid : f.valid = false) {s : String} (called : s ∈ r.calledFor e) : s ∈ r.suggestions :=
    suggestions ▸ (Report.mem_suggestionsFor (Report.invalid_of_field counted reported invalid)).mpr (.inl called)
  constructor
  case named => exact table ▸ Table.nodup_keys_ofPairs _
  case fields => exact agrees
  case counted => exact counted
  case verdict => exact counted.trans r.errorCount_eq_zero_iff
  case summarized => exact fun n => guidance ▸ ReportGuidance.states_of
  case explained => exact guidance ▸ ReportGuidance.keys_inputs_of e r
  case bodyExplained => exact guidance ▸ ReportGuidance.isSome_body_of
  case silent =>
    rw [suggestions]
    refine ⟨fun silent => ?_, Report.suggestionsFor_of_valid⟩
    by_contra invalid
    obtain ⟨s, called⟩ := Report.exists_calledFor (e := e) agrees (mt counted.mpr invalid)
    exact List.not_mem_nil (silent ▸ (Report.mem_suggestionsFor (by simpa using invalid)).mpr (.inl called))
  case distinct => exact suggestions ▸ Report.nodup_suggestionsFor
  case suggested =>
    intro name f member invalid issue inside
    have suggests : Report.Suggests name f issue (Report.suggestion name f issue) := Report.suggests_iff.mpr rfl
    refine ⟨_, told (.inl ⟨name, member⟩) invalid (Report.mem_calledFor.mpr (.inl ?_)), suggests⟩
    exact ⟨name, f, member, invalid, issue, inside, suggests⟩
  case bodySuggested =>
    intro f reported invalid
    have called (s : String) (suggests : Report.SuggestsBody e f s) : s ∈ r.suggestions :=
      told (.inr reported) invalid (Report.mem_calledFor.mpr (.inr ⟨f, reported, invalid, suggests⟩))
    obtain ⟨s, suggests⟩ := Report.exists_suggestsBody e f
    exact ⟨⟨s, called s suggests, suggests⟩, called⟩
  case deserved =>
    rw [suggestions]
    intro s suggested
    exact or_assoc.mp ((Report.calledFor_or_many suggested).imp_left Report.mem_calledFor.mp)

end Endpoint

/-- An identifier is missing, and a body is sent that nobody asked for. Both are told and what to do about them. -/
theorem Discovery.both_errors_told : ∃ e, twoIds.findById "getItem" = .ok e ∧
    let r := (e.validate "getItem" {} [] (some (.str "abc"))).1
    r.Coherent e ∧ r.valid = false ∧ r.guidance.summary = "Request validation failed with 2 errors" ∧
      r.guidance.inputs.keys = ["id"] ∧ r.guidance.body.isSome = true ∧
      "Add the required parameter 'id' to your request" ∈ r.suggestions ∧
      "Remove the request body; this operation does not accept one" ∈ r.suggestions := by
  obtain ⟨e, found⟩ : ∃ e, twoIds.findById "getItem" = .ok e := ⟨_, rfl⟩
  refine ⟨e, found, ?_⟩
  intro r
  have coherent : r.Coherent e := e.coherent_validate "getItem" {} [] (some (.str "abc"))
  obtain ⟨counted, ⟨f, listed, missing⟩, g, reported, unexpected⟩ : r.errorCount = 2 ∧
      (∃ f, r.inputs = [("id", f)] ∧ f.valid = false ∧ ∃ issue ∈ f.issues, issue.kind = .required) ∧
      ∃ f, r.body = some f ∧ f.valid = false ∧ f.has .unexpectedBody = true := by
    cases found
    exact ⟨by decide, ⟨_, rfl, rfl, _, List.mem_singleton_self _, rfl⟩, _, rfl, rfl, rfl⟩
  obtain ⟨invalid, issue, inside, kind⟩ := missing
  obtain ⟨s, suggested, suggests⟩ := coherent.suggested "id" f (by simp [listed]) invalid issue inside
  rw [Report.suggests_iff, Report.suggestion, kind] at suggests
  obtain rfl : "Add the required parameter 'id' to your request" = s := suggests
  refine ⟨coherent, ?_, ReportGuidance.states_iff.mp ((coherent.summarized 2).mpr counted.symm), ?_,
    coherent.bodyExplained.mpr ⟨g, reported, unexpected.1⟩, suggested,
    (coherent.bodySuggested g reported unexpected.1).2 _ (.remove unexpected.2)⟩
  · rw [← Bool.not_eq_true, coherent.counted, counted]
    decide
  · rw [coherent.explained, listed]
    simp [Table.keys, invalid]

end ApiAtlas
