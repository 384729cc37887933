import ApiAtlas.Proofs.Discovery.Routes
import Mathlib.Data.List.Pairwise

/-! What an endpoint has of the operation it stands for: every declared parameter as an input, and the body.
Of the parameters listed by a path item and its operation with one name and location, the last one is
declared. Parameters in the path are required whatever they say. -/
namespace ApiAtlas

/-- The parameters listed by a path item and then by an operation, with references followed. -/
def Components.listed (c : Components) (item : PathItem) (o : Operation) : List Parameter :=
  (item.parameters ++ o.parameters).filterMap c.parameter?

theorem PathItem.operation?_of_mem {item : PathItem} {v : Verb} {o : Operation}
    (listed : (v, o) ∈ item.operations) : item.operation? v = some o := by
  obtain ⟨w, -, found⟩ := List.mem_filterMap.mp listed
  obtain ⟨o', declared, same⟩ := Option.map_eq_some_iff.mp found
  obtain ⟨rfl, rfl⟩ := Prod.mk.inj same
  exact declared

namespace Parameter

def Last (ps : List Parameter) (p : Parameter) : Prop :=
  ∃ before after, ps = before ++ p :: after ∧ ∀ q ∈ after, ¬ (q.name = p.name ∧ q.location = p.location)

/-- A parameter without what resolution may change. -/
def bare (p : Parameter) : Parameter := { p with schema := none, examples := [] }

variable {c : Components} {given kept : List (RefOr Parameter)} {p q : Parameter}

theorem eq_of_bare (same : q.bare = p.bare) :
    q.name = p.name ∧ q.location = p.location ∧ q.required = p.required :=
  ⟨(mk.inj same).1, (mk.inj same).2.1, (mk.inj same).2.2.2.1⟩

theorem bare_of_kept (same : List.Forall₂ (Kept c) given kept) :
    (kept.filterMap RefOr.inline?).map bare = (given.filterMap c.parameter?).map bare := by
  induction same with
  | nil => rfl
  | cons here _ ih =>
    obtain ⟨p, schema, examples, found, rfl⟩ := here
    simp only [List.filterMap_cons, RefOr.inline?, found, List.map_cons, ih]
    rfl

/-- Lists that differ in schemas and examples only have their last parameters in the same places. -/
theorem Last.of_bare {ps qs : List Parameter} (last : Last ps p) (same : qs.map bare = ps.map bare) :
    ∃ q, Last qs q ∧ q.bare = p.bare := by
  obtain ⟨before, after, rfl, apart⟩ := last
  rw [List.map_append, List.map_cons] at same
  obtain ⟨before', rest, rfl, -, same⟩ := List.map_eq_append_iff.mp same
  obtain ⟨q, after', rfl, here, others⟩ := List.map_eq_cons_iff.mp same
  refine ⟨q, ⟨before', after', rfl, ?_⟩, here⟩
  rintro r member ⟨name, location⟩
  have inside : r.bare ∈ after.map bare := others ▸ List.mem_map_of_mem member
  obtain ⟨r', member, same⟩ := List.mem_map.mp inside
  obtain ⟨names, locations, -⟩ := eq_of_bare same
  obtain ⟨names', locations', -⟩ := eq_of_bare here
  exact apart r' member ⟨names.trans (name.trans names'), locations.trans (location.trans locations')⟩

theorem last_concat_iff {ps : List Parameter} : Last (ps ++ [q]) p ↔
    p = q ∨ Last ps p ∧ ¬ (q.name = p.name ∧ q.location = p.location) := by
  constructor
  · rintro ⟨before, after, whole, apart⟩
    rcases List.eq_nil_or_concat after with rfl | ⟨rest, r, rfl⟩
    · exact .inl (List.singleton_inj.mp (List.append_inj' whole rfl).2).symm
    · rw [List.concat_eq_append, ← List.cons_append, ← List.append_assoc] at whole
      obtain ⟨front, same⟩ := List.append_inj' whole rfl
      obtain rfl := List.singleton_inj.mp same
      simp only [List.concat_eq_append, List.forall_mem_append, List.forall_mem_singleton] at apart
      exact .inr ⟨⟨before, rest, front, apart.1⟩, apart.2⟩
  · rintro (rfl | ⟨⟨before, after, rfl, apart⟩, last⟩)
    · exact ⟨ps, [], rfl, by simp⟩
    · refine ⟨before, after ++ [q], by simp, ?_⟩
      simpa only [List.forall_mem_append, List.forall_mem_singleton] using ⟨apart, last⟩

end Parameter

namespace Endpoint

variable {p q : Parameter} {ps : List Parameter}

theorem mem_putParameter_self : p ∈ putParameter p ps := by
  induction ps with
  | nil => exact List.mem_singleton_self p
  | cons q rest ih =>
    unfold putParameter
    split
    · exact List.mem_cons_self
    · exact .tail _ ih

/-- A parameter of another name or location stays. -/
theorem mem_putParameter_of_apart (member : p ∈ ps)
    (apart : ¬ (q.name = p.name ∧ q.location = p.location)) : p ∈ putParameter q ps := by
  induction ps with
  | nil => contradiction
  | cons head rest ih =>
    unfold putParameter
    split
    next same =>
      rcases List.mem_cons.mp member with rfl | later
      · exact absurd ⟨same.1.symm, same.2.symm⟩ apart
      · exact .tail _ later
    next =>
      rcases List.mem_cons.mp member with rfl | later
      · exact List.mem_cons_self
      · exact .tail _ (ih later)

theorem mem_of_mem_putParameter (member : q ∈ putParameter p ps) : q = p ∨ q ∈ ps := by
  induction ps with
  | nil => exact .inl (List.mem_singleton.mp member)
  | cons head rest ih =>
    unfold putParameter at member
    split at member
    · exact (List.mem_cons.mp member).imp_right (List.mem_cons_of_mem head)
    · rcases List.mem_cons.mp member with rfl | later
      · exact .inr List.mem_cons_self
      · exact (ih later).imp_right (List.mem_cons_of_mem head)

def ToldApart (ps : List Parameter) : Prop := ps.Pairwise fun p q => ¬ (p.name = q.name ∧ p.location = q.location)

theorem toldApart_putParameter (told : ToldApart ps) : ToldApart (putParameter p ps) := by
  induction ps with
  | nil => exact List.pairwise_singleton _ p
  | cons head rest ih =>
    obtain ⟨apart, told⟩ := List.pairwise_cons.mp told
    unfold putParameter
    split
    next same =>
      rw [same.1, same.2] at apart
      exact List.pairwise_cons.mpr ⟨apart, told⟩
    next other =>
      refine List.pairwise_cons.mpr ⟨fun q member => ?_, ih told⟩
      rcases mem_of_mem_putParameter member with rfl | later
      · exact other
      · exact apart q later

/-- In a list of parameters that are told apart one takes the place of the one with its name and location. -/
theorem mem_putParameter_iff (told : ToldApart ps) :
    p ∈ putParameter q ps ↔ p = q ∨ p ∈ ps ∧ ¬ (q.name = p.name ∧ q.location = p.location) := by
  constructor
  · intro member
    by_cases new : p = q
    · exact .inl new
    · have old := (mem_of_mem_putParameter member).resolve_left new
      have symmetric : Std.Symm fun p q : Parameter => ¬ (p.name = q.name ∧ p.location = q.location) :=
        ⟨fun _ _ apart same => apart ⟨same.1.symm, same.2.symm⟩⟩
      exact .inr ⟨old, List.Pairwise.forall (toldApart_putParameter told) mem_putParameter_self member (Ne.symm new)⟩
  · rintro (rfl | ⟨member, apart⟩)
    · exact mem_putParameter_self
    · exact mem_putParameter_of_apart member apart

/-- One parameter of each name and location, the later ones in the places of the earlier ones. -/
def merged (ps : List Parameter) : List Parameter := ps.foldl (fun out p => putParameter p out) []

theorem merged_concat (ps : List Parameter) (p : Parameter) : merged (ps ++ [p]) = putParameter p (merged ps) := by
  rw [merged, List.foldl_append]
  rfl

/-- Merged parameters can be told apart by name and location. -/
theorem toldApart_merged (ps : List Parameter) : ToldApart (merged ps) := by
  induction ps using List.reverseRecOn with
  | nil => exact List.Pairwise.nil
  | append_singleton before p ih =>
    rw [merged_concat]
    exact toldApart_putParameter ih

/-- The merged parameters are the last ones of their names and locations. -/
theorem mem_merged_iff : p ∈ merged ps ↔ p.Last ps := by
  induction ps using List.reverseRecOn with
  | nil => simp [merged, Parameter.Last]
  | append_singleton before q ih =>
    rw [merged_concat, mem_putParameter_iff (toldApart_merged before), ih, Parameter.last_concat_iff]

/-- The inputs of a location. -/
def inputsAt (e : Endpoint) : Location → List Input
  | .path => e.pathInputs
  | .query => e.queryInputs
  | .header => e.headerInputs
  | .cookie => e.cookieInputs

section Inputs

variable {d : Document} {path : String} {item : PathItem} {v : Verb} {o : Operation} {l : Location}

theorem inputsAt_ofOperation : (ofOperation d path item v o).inputsAt l =
    ((mergeParameters item.parameters o.parameters).map Input.ofParameter).filter (·.location = l) := by
  cases l <;> rfl

theorem inputs_ofOperation : (ofOperation d path item v o).inputs =
    [Location.path, .query, .header, .cookie].flatMap (ofOperation d path item v o).inputsAt := by
  simp [inputs, inputsAt]

/-- Every merged parameter is an input of its location. -/
theorem mem_inputs_ofOperation (member : p ∈ mergeParameters item.parameters o.parameters) :
    Input.ofParameter p ∈ (ofOperation d path item v o).inputs := by
  rw [inputs_ofOperation, List.mem_flatMap]
  refine ⟨p.location, by cases p.location <;> simp, ?_⟩
  rw [inputsAt_ofOperation, List.mem_filter]
  exact ⟨List.mem_map_of_mem member, decide_eq_true rfl⟩

end Inputs

structure Shows (c : Components) (item : PathItem) (o : Operation) (e : Endpoint) : Prop where
  input : ∀ p : Parameter, p.Last (c.listed item o) → ∃ i ∈ e.inputs, i.name = p.name ∧
    i.required = (p.required || p.location == .path)
  payload : Option.Rel (fun ref (payload : Payload) =>
    ∃ b, c.body? ref = some b ∧ payload.required = b.required) o.requestBody e.payload

theorem shows_ofOperation {c : Components} {d : Document} {path : String} {item item' : PathItem}
    {v : Verb} {o o' : Operation} (items : item.Kept c item') (operations : o.Kept c o') :
    Shows c item o (ofOperation d path item' v o') := by
  constructor
  · intro p last
    have both := List.rel_append items.parameters operations.parameters
    obtain ⟨q, last, same⟩ := last.of_bare (Parameter.bare_of_kept both)
    obtain ⟨name, location, required⟩ := Parameter.eq_of_bare same
    refine ⟨_, mem_inputs_ofOperation (mem_merged_iff.mpr last), name, ?_⟩
    simp only [Input.ofParameter, required, location]
  · have bodies := operations.requestBody
    simp only [ofOperation]
    generalize o.requestBody = given, o'.requestBody = kept at bodies ⊢
    cases bodies with
    | none => exact .none
    | some same =>
      obtain ⟨b, content, found, rfl⟩ := same
      exact .some ⟨b, found, rfl⟩

end Endpoint

namespace Discovery

variable {d : Discovery} {doc : Document} {e : Endpoint} {id : String}

/-- Every endpoint shows an operation that the document declares for its path and method. -/
theorem exists_declared (made : ofDocument doc = .ok d) (member : e ∈ d.endpoints) :
    ∃ item v o, (e.path, item) ∈ doc.paths ∧ e.method = v.text ∧ item.operation? v = some o ∧
      e.Shows doc.parts item o := by
  obtain ⟨⟨path, item'⟩, inside, member⟩ := List.mem_flatMap.mp member
  obtain ⟨⟨v, o'⟩, listed, rfl⟩ := List.mem_map.mp member
  obtain ⟨item, given, items⟩ :=
    (Document.pathsKept_of_resolve (resolve_of_ofDocument made)).exists_given inside
  obtain ⟨o, declared, same⟩ := items.exists_operation (PathItem.operation?_of_mem listed)
  exact ⟨item, v, o, given, rfl, declared, Endpoint.shows_ofOperation items same⟩

/-- Inputs of one name belong to different locations. -/
theorem toldApart_inputs (member : e ∈ d.endpoints) :
    e.inputs.Pairwise fun i j => ¬ (i.name = j.name ∧ i.location = j.location) := by
  obtain ⟨⟨path, item⟩, -, member⟩ := List.mem_flatMap.mp member
  obtain ⟨⟨v, o⟩, -, rfl⟩ := List.mem_map.mp member
  have merged : ((Endpoint.mergeParameters item.parameters o.parameters).map Input.ofParameter).Pairwise
      fun i j => ¬ (i.name = j.name ∧ i.location = j.location) :=
    List.pairwise_map.mpr (Endpoint.toldApart_merged _)
  simp only [Endpoint.inputs_ofOperation, Endpoint.inputsAt_ofOperation, List.pairwise_flatMap]
  refine ⟨fun l _ => merged.filter _, ?_⟩
  have places : [Location.path, .query, .header, .cookie].Nodup := by decide
  refine places.imp fun different i here j there same => ?_
  have left := (List.mem_filter.mp here).2
  have right := (List.mem_filter.mp there).2
  simp only [decide_eq_true_eq] at left right
  exact different (left.symm.trans (same.2.trans right))

/-- Nothing is found under an identifier that no endpoint declares or shows. -/
theorem findById_of_unknown (unknown : ∀ e ∈ d.endpoints, e.operationId ≠ some id ∧ e.displayId ≠ id) :
    d.findById id = .error (.unknownId id) := by
  have declared : d.endpoints.find? (·.operationId = some id) = none :=
    List.find?_eq_none.mpr fun e member => by simpa using (unknown e member).1
  have shown : d.endpoints.find? (·.displayId = id) = none :=
    List.find?_eq_none.mpr fun e member => by simpa using (unknown e member).2
  rw [findById, findById?, declared, shown]
  rfl

theorem mem_endpoints_of_findById (found : d.findById id = .ok e) : e ∈ d.endpoints := by
  unfold findById at found
  split at found
  next e' search =>
    cases found
    rcases Option.or_eq_some_iff.mp search with first | ⟨-, second⟩
    · exact List.mem_of_find?_eq_some first
    · exact List.mem_of_find?_eq_some second
  next => contradiction

end Discovery
end ApiAtlas
