import ApiAtlas.Proofs.Shape.Settling
import ApiAtlas.Proofs.Validation.Conversion
import ApiAtlas.Proofs.Validation.Missing

/-! What a validation writes into the parameters of its caller. Every input writes under its own name only, and what
it writes it would write again. So if no name stands for two inputs, a second validation of what the first one has
left reads the same values after conversion, gives the same report and writes nothing new. -/
namespace ApiAtlas

namespace Input

theorem adapt_adapt (i : Input) (l : Leniency) (v : Json) : i.adapt l (i.adapt l v) = i.adapt l v := by
  unfold adapt
  split
  · exact i.shape.coerce_coerce v
  · rfl

/-- A check sees no difference between a value and what is written in its place. -/
theorem check?_adapted (i : Input) (l : Leniency) (supplied : Option Json) :
    i.check? l (supplied.map (i.adapt l)) = i.check? l supplied := by
  cases supplied with
  | none => rfl
  | some v => simp only [check?, Option.map_some, adapt_adapt]

variable {i : Input} {l : Leniency} {params : Table Json}

theorem get?_writeBack_self : (i.writeBack l params).get? i.name = (params.get? i.name).map (i.adapt l) := by
  unfold writeBack
  split
  next v found => rw [found, Table.get?_put_self, Option.map_some]
  next absent => rw [absent, Option.map_none]

theorem keys_writeBack : (i.writeBack l params).keys = params.keys := by
  unfold writeBack
  split
  next v found =>
    rw [Table.keys_put, if_pos (Table.mem_keys_of_get? found)]
  next => rfl

/-- What is written already is not written again. -/
theorem writeBack_eq_self (written : (params.get? i.name).map (i.adapt l) = params.get? i.name) :
    i.writeBack l params = params := by
  unfold writeBack
  split
  next v found =>
    rw [found, Option.map_some] at written
    rw [Option.some.inj written, Table.put_eq_self found]
  next => rfl

end Input

namespace Endpoint

def rewritten (l : Leniency) : List Input → Table Json → Table Json
  | [], params => params
  | i :: rest, params => rewritten l rest (i.writeBack l params)

variable {e : Endpoint} {id name : String} {l : Leniency} {inputs : List Input} {params : Table Json}
  {body : Option Json}

theorem checkInputs_params (l : Leniency) (inputs : List Input) (reports : Table FieldReport)
    (params : Table Json) : (checkInputs l inputs reports params).2 = rewritten l inputs params := by
  induction inputs generalizing reports params with
  | nil => rfl
  | cons i rest ih => rw [checkInputs, ih, rewritten]

theorem params_validate (e : Endpoint) (id : String) (l : Leniency) (params : Table Json) (body : Option Json) :
    (e.validate id l params body).2 = rewritten l e.inputs params := checkInputs_params ..

theorem keys_rewritten (l : Leniency) (inputs : List Input) (params : Table Json) :
    (rewritten l inputs params).keys = params.keys := by
  induction inputs generalizing params with
  | nil => rfl
  | cons i rest ih => rw [rewritten, ih, Input.keys_writeBack]

theorem get?_rewritten_of_ne (other : ∀ i ∈ inputs, name ≠ i.name) :
    (rewritten l inputs params).get? name = params.get? name := by
  induction inputs generalizing params with
  | nil => rfl
  | cons i rest ih =>
    obtain ⟨here, later⟩ := List.forall_mem_cons.mp other
    rw [rewritten, ih later, get?_writeBack_of_ne here]

theorem get?_rewritten {i : Input} (distinct : (inputs.map (·.name)).Nodup) (member : i ∈ inputs) :
    (rewritten l inputs params).get? i.name = (params.get? i.name).map (i.adapt l) := by
  induction inputs generalizing params with
  | nil => contradiction
  | cons j rest ih =>
    obtain ⟨apart, distinct⟩ := List.nodup_cons.mp distinct
    rw [rewritten]
    rcases List.mem_cons.mp member with rfl | later
    · have other : ∀ j ∈ rest, i.name ≠ j.name := fun j inside same =>
        apart (List.mem_map.mpr ⟨j, inside, same.symm⟩)
      rw [get?_rewritten_of_ne other, Input.get?_writeBack_self]
    · have other : i.name ≠ j.name := fun same => apart (List.mem_map.mpr ⟨i, later, same⟩)
      rw [ih distinct later, get?_writeBack_of_ne other]

theorem rewritten_eq_self (written : ∀ i ∈ inputs, (params.get? i.name).map (i.adapt l) = params.get? i.name) :
    rewritten l inputs params = params := by
  induction inputs with
  | nil => rfl
  | cons i rest ih =>
    obtain ⟨here, later⟩ := List.forall_mem_cons.mp written
    rw [rewritten, Input.writeBack_eq_self here, ih later]

/-- With distinct names all inputs read the parameters as they were sent. -/
theorem turnsOf_of_nodup (distinct : (inputs.map (·.name)).Nodup) :
    turnsOf l inputs params = inputs.map fun i => ⟨i, params.get? i.name⟩ := by
  calc turnsOf l inputs params
      = (turnsOf l inputs params).map fun t => ⟨t.input, params.get? t.input.name⟩ := by
        refine (List.map_id' _).symm.trans (List.map_congr_left fun t member => ?_)
        rw [← supplied_of_nodup distinct member]
    _ = ((turnsOf l inputs params).map (·.input)).map fun i => ⟨i, params.get? i.name⟩ := by
        rw [List.map_map]
        rfl
    _ = _ := by rw [map_input_turnsOf]

section Distinct

variable (distinct : (inputs.map (·.name)).Nodup)

include distinct

theorem rewritten_rewritten : rewritten l inputs (rewritten l inputs params) = rewritten l inputs params := by
  refine rewritten_eq_self fun i member => ?_
  rw [get?_rewritten distinct member, Option.map_map]
  congr 1
  funext v
  exact i.adapt_adapt l v

/-- The parameters that inputs leave are checked as those that they were given. -/
theorem checkInputs_rewritten :
    checkInputs l inputs [] (rewritten l inputs params) = checkInputs l inputs [] params := by
  refine Prod.ext ?reports ?after
  case reports =>
    rw [checkInputs_reports, checkInputs_reports, turnsOf_of_nodup distinct, turnsOf_of_nodup distinct,
      List.filterMap_map, List.filterMap_map]
    refine congrArg _ (List.filterMap_congr fun i member => ?_)
    simp only [Function.comp_apply, Turn.written?, Turn.report?]
    rw [get?_rewritten distinct member, Input.check?_adapted]
  case after => rw [checkInputs_params, checkInputs_params, rewritten_rewritten distinct]

end Distinct

/-- The warning about a name that is not declared. -/
def warning (e : Endpoint) (name : String) : String :=
  "parameter '" ++ name ++ "' is not declared by operation " ++ e.displayId

theorem warnings_eq (e : Endpoint) (params : Table Json) :
    e.warnings params = (params.keys.filter fun name => (e.input? name).isNone).map e.warning := rfl

theorem warning_injective (e : Endpoint) : Function.Injective e.warning := by
  intro a b same
  have letters := congrArg String.toList same
  simpa [warning, String.toList_inj] using letters

/-- What is written, and what is said about it. -/
structure WrittenBack (e : Endpoint) (l : Leniency) (params : Table Json) (report : Report)
    (after : Table Json) : Prop where
  keys : after.keys = params.keys
  undeclared : ∀ name, e.input? name = none → after.get? name = params.get? name
  warned : ∀ name ∈ params.keys, e.input? name = none → report.warnings.count (e.warning name) = 1
  deserved : ∀ text ∈ report.warnings, ∃ name ∈ params.keys, e.input? name = none ∧ text = e.warning name
  plain : l.allowCoercion = false → after = params
  converted : l.allowCoercion = true →
    ∀ i ∈ e.inputs, after.get? i.name = (params.get? i.name).map i.shape.coerce

theorem writtenBack_validate (known : params.keys.Nodup) (distinct : (e.inputs.map (·.name)).Nodup) :
    e.WrittenBack l params (e.validate id l params body).1 (e.validate id l params body).2 := by
  have left := e.params_validate id l params body
  have warnings : (e.validate id l params body).1.warnings = e.warnings (e.validate id l params body).2 := rfl
  have keys : (e.validate id l params body).2.keys = params.keys := left ▸ keys_rewritten ..
  rw [warnings_eq, keys] at warnings
  constructor
  case keys => exact keys
  case undeclared =>
    intro name undeclared
    rw [left]
    refine get?_rewritten_of_ne fun i member same => ?_
    simpa [same] using List.find?_eq_none.mp undeclared i member
  case warned =>
    intro name member undeclared
    rw [warnings]
    refine List.count_eq_one_of_mem ((known.filter _).map e.warning_injective) (List.mem_map_of_mem ?_)
    simp [member, undeclared]
  case deserved =>
    intro text member
    rw [warnings] at member
    obtain ⟨name, inside, rfl⟩ := List.mem_map.mp member
    obtain ⟨member, undeclared⟩ := List.mem_filter.mp inside
    exact ⟨name, member, Option.isNone_iff_eq_none.mp undeclared, rfl⟩
  case plain =>
    intro off
    rw [left]
    refine rewritten_eq_self fun i _ => ?_
    cases params.get? i.name <;> simp [Input.adapt, off]
  case converted =>
    intro on i member
    rw [left, get?_rewritten distinct member]
    congr 1
    funext v
    rw [Input.adapt, on, if_pos rfl]

/-- A second validation of the parameters that the first one leaves is the same. -/
theorem validate_again (distinct : (e.inputs.map (·.name)).Nodup) :
    e.validate id l (e.validate id l params body).2 body = e.validate id l params body := by
  rw [params_validate, validate, checkInputs_rewritten distinct]
  rfl

/-- No name is declared in two places. -/
def Apart (e : Endpoint) : Prop := ∀ i ∈ e.inputs, ∀ j ∈ e.inputs, i.name = j.name → i.location = j.location

instance (e : Endpoint) : Decidable e.Apart :=
  inferInstanceAs (Decidable (∀ i ∈ e.inputs, ∀ j ∈ e.inputs, i.name = j.name → i.location = j.location))

end Endpoint

namespace Discovery

variable {d : Discovery} {e : Endpoint} {id : String} {l : Leniency} {params : Table Json} {body : Option Json}

theorem submit_of_found (found : d.findById id = .ok e) (l : Leniency) (params : Table Json)
    (body : Option Json) : d.submit id l params body =
      (.ok (e.validate id l params body).1, (e.validate id l params body).2) := by
  rw [submit_eq, found]

theorem submit_of_unknown (unknown : ∀ e ∈ d.endpoints, e.operationId ≠ some id ∧ e.displayId ≠ id) :
    d.submit id l params body = (.error (.unknownId id), params) := by
  rw [submit_eq, findById_of_unknown unknown]

/-- Names that are declared in one place belong to one input. -/
theorem nodup_names (member : e ∈ d.endpoints) (apart : e.Apart) : (e.inputs.map (·.name)).Nodup := by
  refine List.pairwise_map.mpr ((toldApart_inputs member).imp_of_mem fun {i j} first second told same => ?_)
  exact told ⟨same, apart i first j second same⟩

/-- A request writes into the parameters what it should and nothing else, and made again with the parameters that it
has left it gives the same answer and leaves them as they are. -/
theorem write_back_settles (known : params.keys.Nodup) :
    (∀ e, d.findById id = .ok e → e.Apart → ∃ report after,
      d.submit id l params body = (.ok report, after) ∧ e.WrittenBack l params report after ∧
        d.submit id l after body = (.ok report, after)) ∧
    ((∀ e ∈ d.endpoints, e.operationId ≠ some id ∧ e.displayId ≠ id) →
      d.submit id l params body = (.error (.unknownId id), params)) := by
  refine ⟨fun e found apart => ?_, submit_of_unknown⟩
  have distinct := nodup_names (mem_endpoints_of_findById found) apart
  refine ⟨_, _, submit_of_found found l params body, Endpoint.writtenBack_validate known distinct, ?_⟩
  rw [submit_of_found found, Endpoint.validate_again distinct]

def byIdentifiers : Discovery where
  document := { paths := [("/items", { get := some {
    operationId := some "getItems"
    parameters := [
      .inline { name := "ids", location := .query, schema := some (.inline { type := some (.one .array) }
        { items := some (.inline { type := some (.one .integer) } {}) }) },
      .inline { name := "brief", location := .header,
                schema := some (.inline { type := some (.one .boolean) } {}) }] } })] }

/-- A text of identifiers becomes a list of integers, once and for all, and what is not declared stays. -/
theorem identifiers_settle :
    let sent : Table Json := [("ids", .str "1, 2"), ("verbose", .str "1")]
    let left : Table Json := [("ids", .arr [.int 1, .int 2]), ("verbose", .str "1")]
    let l : Leniency := { allowCoercion := true }
    sent.keys.Nodup ∧ (∃ e report, byIdentifiers.findById "getItems" = .ok e ∧ e.Apart ∧
      byIdentifiers.submit "getItems" l sent none = (.ok report, left) ∧
      e.WrittenBack l sent report left ∧ byIdentifiers.submit "getItems" l left none = (.ok report, left)) ∧
    byIdentifiers.submit "getItem" l sent none = (.error (.unknownId "getItem"), sent) := by
  intro sent left l
  have known : sent.keys.Nodup := by decide
  obtain ⟨e, found⟩ : ∃ e, byIdentifiers.findById "getItems" = .ok e := ⟨_, rfl⟩
  have apart : e.Apart := by
    cases found
    decide +kernel
  obtain ⟨report, after, submitted, written, again⟩ : ∃ report after,
      byIdentifiers.submit "getItems" l sent none = (.ok report, after) ∧ e.WrittenBack l sent report after ∧
        byIdentifiers.submit "getItems" l after none = (.ok report, after) :=
    (write_back_settles known).1 e found apart
  have same : after = left := by
    have outcome : (byIdentifiers.submit "getItems" l sent none).2 = left := by decide +kernel
    rw [← outcome, submitted]
  subst same
  refine ⟨known, ⟨e, report, found, apart, submitted, written, again⟩, ?_⟩
  exact (write_back_settles known).2 (by decide +kernel)

end Discovery
end ApiAtlas
