import ApiAtlas.Proofs.Shape.Conversion
import ApiAtlas.Proofs.Validation.Leniency

/-! Requests with conversion. Without it every input reads the value that was sent under its name; with it
an input of the same name may have converted the value before. A valid request stays valid unless the
value of a last turn is lost, which needs a shape that accepts values of another type than the one it
converts to, an array that is compared as a whole, or two inputs of one name. -/
namespace ApiAtlas

def Leniency.converting (l : Leniency) : Leniency := { l with allowCoercion := true }

/-- What a turn is given is lost by conversion: the value that was sent, or one that an earlier input of
the name has put in its place. -/
inductive Turn.Spoilt (l : Leniency) (params : Table Json) (t : Turn) : Prop
  | sent {v} : t.supplied = some v → params.get? t.input.name = some v →
    Shape.Spoils l.checks t.input.shape v → Spoilt l params t
  | replaced {v} : t.supplied = some v → params.get? t.input.name ≠ some v →
    Shape.isValid l.checks t.input.shape (t.input.shape.coerce v) = false → Spoilt l params t

namespace Endpoint

variable {e : Endpoint} {id : String} {l : Leniency} {inputs : List Input} {params : Table Json}
  {body : Option Json} {t : Turn}

theorem get?_writeBack_of_ne {i : Input} {name : String} (other : name ≠ i.name) :
    (i.writeBack l params).get? name = params.get? name := by
  unfold Input.writeBack
  split
  · exact Table.get?_put_of_ne other ..
  · rfl

/-- Without conversion the parameters stay as they are. -/
theorem get?_writeBack_plain (off : l.allowCoercion = false) (i : Input) (name : String) :
    (i.writeBack l params).get? name = params.get? name := by
  by_cases same : name = i.name
  · subst same
    unfold Input.writeBack
    split
    next v found => rw [Table.get?_put_self, found, Input.adapt, off]; rfl
    next => rfl
  · exact get?_writeBack_of_ne same

theorem turnsOf_plain (off : l.allowCoercion = false) (inputs : List Input) (params : Table Json) :
    turnsOf l inputs params = inputs.map fun i => ⟨i, params.get? i.name⟩ := by
  induction inputs generalizing params with
  | nil => rfl
  | cons i rest ih => simp only [turnsOf, ih, get?_writeBack_plain off, List.map_cons]

/-- The turns without conversion are those with it, each one given the value that was sent. -/
theorem turns_plain (off : l.allowCoercion = false) :
    e.turns l params =
      (e.turns l.converting params).map fun t => ⟨t.input, params.get? t.input.name⟩ := by
  calc e.turns l params
      = e.inputs.map fun i => ⟨i, params.get? i.name⟩ := turnsOf_plain off ..
    _ = ((e.turns l.converting params).map (·.input)).map fun i => ⟨i, params.get? i.name⟩ := by
      rw [turns, map_input_turnsOf]
    _ = _ := List.map_map

theorem last_plain (off : l.allowCoercion = false) (last : t.Last (e.turns l.converting params)) :
    Turn.Last (e.turns l params) ⟨t.input, params.get? t.input.name⟩ := by
  obtain ⟨before, after, whole, apart⟩ := last
  rw [turns_plain off, whole, List.map_append, List.map_cons]
  refine ⟨_, _, rfl, fun u member => ?_⟩
  obtain ⟨w, inside, rfl⟩ := List.mem_map.mp member
  exact apart w inside

/-- With distinct names every input is given the value that was sent. -/
theorem supplied_of_nodup (distinct : (inputs.map (·.name)).Nodup)
    (member : t ∈ turnsOf l inputs params) : t.supplied = params.get? t.input.name := by
  induction inputs generalizing params with
  | nil => simp [turnsOf] at member
  | cons i rest ih =>
    obtain ⟨apart, distinct⟩ := List.nodup_cons.mp distinct
    rcases List.mem_cons.mp member with rfl | later
    · rfl
    · have inside : t.input ∈ rest := map_input_turnsOf l rest _ ▸ List.mem_map_of_mem later
      have other : t.input.name ≠ i.name := fun same =>
        apart (List.mem_map.mpr ⟨t.input, inside, same⟩)
      rw [ih distinct later, get?_writeBack_of_ne other]

/-- Nothing is missing with conversion that is not missing without. -/
theorem Complete.converting (off : l.allowCoercion = false) (complete : e.Complete l params body) :
    e.Complete l.converting params body where
  inputs t member missing required := by
    have absent : params.get? t.input.name = none := by
      simpa [missing] using (turns_supplied member).symm
    refine complete.inputs ⟨t.input, params.get? t.input.name⟩ ?_ absent required
    rw [turns_plain off]
    exact List.mem_map_of_mem (f := fun t => (⟨t.input, params.get? t.input.name⟩ : Turn)) member
  payload := complete.payload
  expected := complete.expected

/-- A value that decides without conversion is one that was sent, and decides with conversion. -/
theorem decides_sent (off : l.allowCoercion = false) (last : t.Last (e.turns l.converting params)) {v : Json}
    (sent : params.get? t.input.name = some v) : e.Decides l params body t.input.shape v := by
  have same : t.input.adapt l v = v := by rw [Input.adapt, off]; rfl
  have decides : e.Decides l params body _ _ := .input (last_plain off last) sent
  rwa [same] at decides

/-- A valid request stays valid with conversion, unless types are checked and the value of a last turn is
lost. It always stays valid if the inputs have distinct names and every value that was sent belongs to a
steady shape or fits. -/
theorem valid_converting_iff (off : l.allowCoercion = false)
    (representable : ∀ name v, params.get? name = some v → v.Representable)
    (valid : (e.validate id l params body).1.valid = true) :
    ((e.validate id l.converting params body).1.valid = true ↔ l.skipTypes = true ∨
      ∀ t : Turn, t.Last (e.turns l.converting params) → ¬ t.Spoilt l params) ∧
    ((e.inputs.map (·.name)).Nodup →
      (∀ i ∈ e.inputs, ∀ v, params.get? i.name = some v → i.shape.Steady ∨ i.shape.Fits v) →
      (e.validate id l.converting params body).1.valid = true) := by
  obtain ⟨complete, decided⟩ := valid_iff_complete.mp valid
  have verdict : (e.validate id l.converting params body).1.valid = true ↔ l.skipTypes = true ∨
      ∀ t : Turn, t.Last (e.turns l.converting params) → ¬ t.Spoilt l params := by
    rw [valid_iff_complete, and_iff_right (complete.converting off)]
    by_cases types : l.skipTypes = true
    · simp [types, Leniency.converting]
    have accepted := decided.resolve_left types
    refine or_congr_right ⟨fun kept t last spoilt => ?_, fun none s v decides => ?_⟩
    · cases spoilt with
      | sent supplied sent spoils =>
        have after := kept _ _ (.input last supplied)
        exact Bool.false_ne_true (spoils.rejects.symm.trans after)
      | replaced supplied _ rejected =>
        have after := kept _ _ (.input last supplied)
        exact Bool.false_ne_true (rejected.symm.trans after)
    · cases decides with
      | body found shape given => exact accepted s v (.body found shape given)
      | @input t w last supplied =>
        by_contra rejected
        have rejected : Shape.isValid l.checks t.input.shape (t.input.shape.coerce w) = false :=
          Bool.eq_false_iff.mpr rejected
        by_cases sent : params.get? t.input.name = some w
        · have before := accepted _ _ (decides_sent off last sent)
          exact none t last (.sent supplied sent
            (Shape.spoils_of_rejects _ w (representable _ w sent) before rejected))
        · exact none t last (.replaced supplied sent rejected)
  refine ⟨verdict, fun distinct safe => ?_⟩
  by_cases types : l.skipTypes = true
  · exact verdict.mpr (.inl types)
  refine verdict.mpr (.inr fun t last spoilt => ?_)
  have sent := supplied_of_nodup distinct last.mem
  cases spoilt with
  | replaced supplied other _ => exact other (sent ▸ supplied)
  | @sent v _ given spoils =>
    have inside : t.input ∈ e.inputs :=
      map_input_turnsOf l.converting e.inputs params ▸ List.mem_map_of_mem last.mem
    have before := decided.resolve_left types _ _ (decides_sent off last given)
    rcases safe t.input inside v given with steady | fits
    · exact steady.not_spoils v (representable _ v given) before spoils
    · exact fits.not_spoils (representable _ v given) before spoils

end Endpoint

def Discovery.numberOrAll : Discovery where
  document := { paths := [("/items", { get := some {
    operationId := some "listItems"
    parameters := [.inline { name := "limit", location := .query, schema := some (.inline {} {
      anyOf := [.inline { type := some (.one .string), enum := [.str "all"] } {},
                .inline { type := some (.one .integer) } {}] }) }] } })] }

/-- The word has the type that is converted to. -/
theorem word_for_all_stays_valid : ∃ e, Discovery.numberOrAll.findById "listItems" = .ok e ∧
    (e.validate "listItems" {} [("limit", .str "all")] none).1.valid = true ∧
    (e.validate "listItems" { allowCoercion := true } [("limit", .str "all")] none).1.valid = true := by
  obtain ⟨e, found⟩ : ∃ e, Discovery.numberOrAll.findById "listItems" = .ok e := ⟨_, rfl⟩
  have valid : (e.validate "listItems" {} [("limit", .str "all")] none).1.valid = true := by
    cases found
    decide
  have names : e.inputs.map (·.name) = ["limit"] := by cases found; rfl
  have shapes : e.inputs.map (·.shape) =
      [.anyOf [.simple { type := some .string, enum := [.str "all"] } {}, .ofType .integer]] := by
    cases found
    rfl
  have sent (name : String) (v : Json) (given : Table.get? [("limit", .str "all")] name = some v) :
      v = .str "all" := by
    simp only [Table.get?, List.lookup_cons] at given
    split at given <;> simp_all
  refine ⟨e, found, valid, (Endpoint.valid_converting_iff rfl ?doubles valid).2 ?distinct ?fits⟩
  case doubles =>
    intro name v given
    rw [sent name v given]
    exact .str _
  case distinct => simp [names]
  case fits =>
    intro i member v given
    have shape := List.mem_map_of_mem (f := fun i : Input => i.shape) member
    rw [shapes, List.mem_singleton] at shape
    rw [sent i.name v given, shape]
    refine .inr fun t type => ?_
    cases type
    exact ⟨by decide, .inr rfl⟩

/-- A number becomes a text, which is not the word for all. -/
theorem number_invalid_as_text : ¬ ∀ (d : Discovery) (e : Endpoint) (id : String) (l : Leniency)
    (params : Table Json) (body : Option Json), d.findById id = .ok e → l.allowCoercion = false →
    (e.validate id l params body).1.valid = true →
    (e.validate id { l with allowCoercion := true } params body).1.valid = true := by
  intro claim
  obtain ⟨e, found⟩ : ∃ e, Discovery.numberOrAll.findById "listItems" = .ok e := ⟨_, rfl⟩
  have kept := claim _ _ "listItems" {} [("limit", .num (.whole 10))] none found rfl
  cases found
  exact absurd (kept (by decide)) (by decide)

end ApiAtlas
