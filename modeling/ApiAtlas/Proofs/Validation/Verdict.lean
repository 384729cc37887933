import ApiAtlas.Proofs.Table
import ApiAtlas.Validation

/-! The verdict on a request. Inputs take turns: each one reads the value that stands under its name
by then, and a conversion may replace it. A report is kept under the name alone, so that of several
inputs of one name only the last report counts. What is supplied stays supplied, hence a missing value
is never forgotten; a wrong one is, if a later input of the same name accepts it. -/
namespace ApiAtlas

/-- An input and what stands under its name when its turn comes. -/
structure Turn where
  input : Input
  supplied : Option Json

theorem Report.errorCount_eq_zero_iff (r : Report) : r.errorCount = 0 ↔
    (∀ name f, (name, f) ∈ r.inputs → f.valid = true) ∧ ∀ f, r.body = some f → f.valid = true := by
  unfold errorCount invalidFields
  cases r.body <;> simp

namespace Turn

def report? (l : Leniency) (t : Turn) : Option FieldReport := t.input.check? l t.supplied

def Passes (l : Leniency) (t : Turn) : Prop := ∀ f, t.report? l = some f → f.valid = true

/-- The entry of the reports that a turn writes. -/
def written? (l : Leniency) (t : Turn) : Option (String × FieldReport) :=
  (t.report? l).map fun f => (t.input.name, f)

def Last (turns : List Turn) (t : Turn) : Prop :=
  ∃ before after, turns = before ++ t :: after ∧ ∀ u ∈ after, u.input.name ≠ t.input.name

/-- A value that fails the check of one input and passes that of a later one of the same name. -/
def Hidden (l : Leniency) (turns : List Turn) (t : Turn) : Prop :=
  ¬ t.Passes l ∧ ∃ u, [t, u].Sublist turns ∧ u.input.name = t.input.name ∧ u.Passes l

variable {l : Leniency} {t : Turn}

theorem report?_supplied (v : Json) (supplied : t.supplied = some v) :
    t.report? l = some (t.input.checkValue l (t.input.adapt l v)) := by
  rw [report?, supplied, Input.check?]

/-- Without a value the only report is that one is missing. -/
theorem not_valid_of_missing {f : FieldReport} (missing : t.supplied = none)
    (reported : t.report? l = some f) : f.valid = false := by
  simp only [report?, Input.check?, missing] at reported
  split at reported
  next => cases reported; rfl
  next => contradiction

theorem Last.mem {turns : List Turn} (last : t.Last turns) : t ∈ turns := by
  obtain ⟨before, after, rfl, -⟩ := last
  simp

/-- A turn is the last one of its name, or one behind it is. -/
theorem last_or_behind {turns : List Turn} (member : t ∈ turns) :
    t.Last turns ∨ ∃ u, [t, u].Sublist turns ∧ u.input.name = t.input.name ∧ u.Last turns := by
  induction turns generalizing t with
  | nil => simp at member
  | cons head rest ih =>
    have lift {u : Turn} (last : u.Last rest) : u.Last (head :: rest) := by
      obtain ⟨before, after, rfl, apart⟩ := last
      exact ⟨head :: before, after, rfl, apart⟩
    rcases List.mem_cons.mp member with rfl | member
    · by_cases again : ∃ w ∈ rest, w.input.name = t.input.name
      · obtain ⟨w, inside, same⟩ := again
        rcases ih inside with last | ⟨u, order, other, last⟩
        · exact .inr ⟨w, by simpa using inside, same, lift last⟩
        · have behind : u ∈ rest := order.subset (by simp)
          exact .inr ⟨u, by simpa using behind, other.trans same, lift last⟩
      · exact .inl ⟨[], rest, rfl, fun u inside same => again ⟨u, inside, same⟩⟩
    · rcases ih member with last | ⟨u, order, other, last⟩
      · exact .inl (lift last)
      · exact .inr ⟨u, order.cons _, other, lift last⟩

/-- The report of a last turn stays. -/
theorem Last.entry {turns : List Turn} {f : FieldReport} (last : t.Last turns)
    (reported : t.report? l = some f) :
    Table.Last (turns.filterMap (written? l)) t.input.name f := by
  obtain ⟨before, after, rfl, apart⟩ := last
  refine ⟨before.filterMap (written? l), after.filterMap (written? l), ?_, ?_⟩
  · simp [written?, reported]
  · intro named
    obtain ⟨entry, written, same⟩ := List.mem_map.mp named
    obtain ⟨u, member, made⟩ := List.mem_filterMap.mp written
    obtain ⟨g, -, rfl⟩ := Option.map_eq_some_iff.mp made
    exact apart u member same

/-- A report that stays is that of a turn behind which no input of its name reports anything. -/
theorem of_last_entry {turns : List Turn} {name : String} {f : FieldReport}
    (last : Table.Last (turns.filterMap (written? l)) name f) :
    ∃ t before after, turns = before ++ t :: after ∧ t.input.name = name ∧
      t.report? l = some f ∧ ∀ u ∈ after, u.input.name = name → u.report? l = none := by
  obtain ⟨front, back, whole, absent⟩ := last
  obtain ⟨before, rest, rfl, -, whole⟩ := List.filterMap_eq_append_iff.mp whole
  obtain ⟨skipped, t, after, rfl, silent, written, rfl⟩ := List.filterMap_eq_cons_iff.mp whole
  obtain ⟨g, reported, same⟩ := Option.map_eq_some_iff.mp written
  obtain ⟨named, rfl⟩ := Prod.mk.inj same
  refine ⟨t, before ++ skipped, after, by simp, named, reported, ?_⟩
  intro u member other
  by_contra speaks
  obtain ⟨h, answer⟩ := Option.ne_none_iff_exists'.mp speaks
  apply absent
  simp only [Table.keys, List.mem_map, List.mem_filterMap]
  exact ⟨(name, h), ⟨u, member, by simp [written?, answer, other]⟩, rfl⟩

end Turn

namespace Endpoint

def turnsOf (l : Leniency) : List Input → Table Json → List Turn
  | [], _ => []
  | i :: rest, params => ⟨i, params.get? i.name⟩ :: turnsOf l rest (i.writeBack l params)

def turns (e : Endpoint) (l : Leniency) (params : Table Json) : List Turn :=
  turnsOf l e.inputs params

def BodyPasses (e : Endpoint) (l : Leniency) (body : Option Json) : Prop :=
  ∀ f, e.checkBody l body = some f → f.valid = true

/-- Every input passes its own check when its turn comes, and the body passes. -/
def AllPass (e : Endpoint) (l : Leniency) (params : Table Json) (body : Option Json) : Prop :=
  (∀ t ∈ e.turns l params, t.Passes l) ∧ e.BodyPasses l body

variable {l : Leniency} {inputs : List Input} {params : Table Json}

/-- Every input has its turn. -/
theorem map_input_turnsOf (l : Leniency) (inputs : List Input) (params : Table Json) :
    (turnsOf l inputs params).map (·.input) = inputs := by
  induction inputs generalizing params with
  | nil => rfl
  | cons i rest ih => simp only [turnsOf, List.map_cons, ih]

/-- The parameters keep their names when an input is checked. -/
theorem writeBack_isSome (i : Input) (l : Leniency) (params : Table Json) (name : String) :
    ((i.writeBack l params).get? name).isSome = (params.get? name).isSome := by
  unfold Input.writeBack
  split
  next v found =>
    by_cases same : name = i.name
    · subst same
      simp [Table.get?_put_self, found]
    · rw [Table.get?_put_of_ne same]
  next => rfl

/-- What is supplied at the start is supplied at every turn, and nothing else. -/
theorem turnsOf_supplied {t : Turn} (member : t ∈ turnsOf l inputs params) :
    t.supplied.isSome = (params.get? t.input.name).isSome := by
  induction inputs generalizing params with
  | nil => simp [turnsOf] at member
  | cons i rest ih =>
    rcases List.mem_cons.mp member with rfl | member
    · rfl
    · rw [ih member, writeBack_isSome]

theorem turns_supplied {e : Endpoint} {t : Turn} (member : t ∈ e.turns l params) :
    t.supplied.isSome = (params.get? t.input.name).isSome :=
  turnsOf_supplied member

/-- The loop over the inputs writes the entries of their turns. -/
theorem checkInputs_reports (l : Leniency) (inputs : List Input) (reports : Table FieldReport)
    (params : Table Json) :
    (checkInputs l inputs reports params).1 =
      ((turnsOf l inputs params).filterMap (Turn.written? l)).foldl
        (fun table p => table.put p.1 p.2) reports := by
  induction inputs generalizing reports params with
  | nil => rfl
  | cons i rest ih =>
    rw [checkInputs, ih, turnsOf, List.filterMap_cons]
    simp only [Turn.written?, Turn.report?]
    cases i.check? l (params.get? i.name) <;> simp

/-- A request is valid if the last report under each name says so, and that on the body. -/
theorem valid_iff_last_entries (e : Endpoint) (id : String) (l : Leniency) (params : Table Json)
    (body : Option Json) :
    (e.validate id l params body).1.valid = true ↔
      (∀ name f, Table.Last ((e.turns l params).filterMap (Turn.written? l)) name f → f.valid = true) ∧
        e.BodyPasses l body := by
  have reports : (checkInputs l e.inputs [] params).1 =
      Table.ofPairs ((e.turns l params).filterMap (Turn.written? l)) :=
    checkInputs_reports l e.inputs [] params
  have fields := Report.errorCount_eq_zero_iff (e.validate id l params body).1
  rw [show (e.validate id l params body).1.inputs = (checkInputs l e.inputs [] params).1 from rfl, reports] at fields
  simp only [Table.mem_ofPairs_iff] at fields
  exact beq_iff_eq.trans fields

/-- The verdict by turns: no missing value is reported, and each supplied value passes the check of the
last input of its name. -/
theorem valid_iff_last_turns (e : Endpoint) (id : String) (l : Leniency) (params : Table Json)
    (body : Option Json) :
    (e.validate id l params body).1.valid = true ↔
      (∀ t ∈ e.turns l params, t.supplied = none → t.Passes l) ∧
      (∀ t : Turn, t.Last (e.turns l params) → t.Passes l) ∧ e.BodyPasses l body := by
  rw [valid_iff_last_entries]
  constructor
  · rintro ⟨entries, body⟩
    refine ⟨?_, fun t last f reported => entries _ f (last.entry reported), body⟩
    intro t member missing f reported
    have named : t.input.name ∈ Table.keys ((e.turns l params).filterMap (Turn.written? l)) := by
      simp only [Table.keys, List.mem_map, List.mem_filterMap]
      exact ⟨(t.input.name, f), ⟨t, member, by simp [Turn.written?, reported]⟩, rfl⟩
    -- The report that stays under this name is one on a missing value as well.
    obtain ⟨g, last⟩ := Table.exists_last named
    obtain ⟨u, before, after, whole, same, answered, -⟩ := Turn.of_last_entry last
    have later : u ∈ e.turns l params := by simp [whole]
    have absent : u.supplied = none := by
      have supplied := turns_supplied later
      rw [same, ← turns_supplied member, missing] at supplied
      simpa using supplied
    simpa [Turn.not_valid_of_missing absent answered] using entries _ g last
  · rintro ⟨missing, last, body⟩
    refine ⟨?_, body⟩
    intro name f stays
    obtain ⟨t, before, after, whole, rfl, reported, silent⟩ := Turn.of_last_entry stays
    have member : t ∈ e.turns l params := by simp [whole]
    cases supplied : t.supplied with
    | none => exact missing t member supplied f reported
    | some v =>
      apply last t _ f reported
      refine ⟨before, after, whole, fun u later same => ?_⟩
      have answers : u.supplied.isSome = (params.get? u.input.name).isSome :=
        turns_supplied (by rw [whole]; simp [later])
      rw [same, ← turns_supplied member, supplied] at answers
      obtain ⟨w, given⟩ := Option.isSome_iff_exists.mp answers
      simpa [Turn.report?_supplied w given] using silent u later same

/-- The verdict is that of the last turns, and it agrees with all the checks made unless a request
passes although a value fails the check of one input, another one of its name being checked later. -/
theorem valid_iff_all_pass_iff_none_hidden (e : Endpoint) (id : String) (l : Leniency)
    (params : Table Json) (body : Option Json) :
    ((e.validate id l params body).1.valid = true ↔
      (∀ t ∈ e.turns l params, t.supplied = none → t.Passes l) ∧
      (∀ t : Turn, t.Last (e.turns l params) → t.Passes l) ∧ e.BodyPasses l body) ∧
    (((e.validate id l params body).1.valid = true ↔ e.AllPass l params body) ↔
      ¬ ((e.validate id l params body).1.valid = true ∧
        ∃ t : Turn, t.Hidden l (e.turns l params))) := by
  have verdict := valid_iff_last_turns e id l params body
  refine ⟨verdict, ?_, ?_⟩
  · rintro agrees ⟨valid, t, fails, u, order, -, -⟩
    exact fails ((agrees.mp valid).1 t (order.subset (by simp)))
  · intro none
    constructor
    · intro valid
      obtain ⟨-, last, body⟩ := verdict.mp valid
      refine ⟨fun t member => ?_, body⟩
      rcases Turn.last_or_behind member with final | ⟨u, order, same, final⟩
      · exact last t final
      · by_contra fails
        exact none ⟨valid, t, fails, u, order, same, last u final⟩
    · rintro ⟨all, body⟩
      refine verdict.mpr ⟨fun t member _ => all t member, fun t final => ?_, body⟩
      obtain ⟨before, after, whole, -⟩ := final
      exact all t (by rw [whole]; simp)

end Endpoint

def Discovery.twoIds : Discovery where
  document := { paths := [("/items/\x7bid\x7d", { get := some {
    operationId := some "getItem"
    parameters := [
      .inline { name := "id", location := .path, required := true,
                schema := some (.inline { type := some (.one .integer) } {}) },
      .inline { name := "id", location := .query,
                schema := some (.inline { type := some (.one .string) } {}) }] } })] }

/-- The query takes the text that the path refuses, and the request is valid. -/
theorem text_for_number_hidden : ¬ ∀ (d : Discovery) (e : Endpoint) (id : String) (l : Leniency)
    (params : Table Json) (body : Option Json), d.findById id = .ok e →
    ((e.validate id l params body).1.valid = true ↔ e.AllPass l params body) := by
  intro claim
  obtain ⟨e, found⟩ : ∃ e, Discovery.twoIds.findById "getItem" = .ok e := ⟨_, rfl⟩
  have agrees := claim _ _ "getItem" {} [("id", .str "abc")] none found
  cases found
  obtain ⟨all, -⟩ := agrees.mp (by decide)
  have passes := all _ List.mem_cons_self _ rfl
  exact absurd passes (by decide)

end ApiAtlas
