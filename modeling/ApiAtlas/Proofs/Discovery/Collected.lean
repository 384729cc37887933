import ApiAtlas.Proofs.Discovery.Declared
import ApiAtlas.Proofs.Document.Pointers
import Mathlib.Data.Option.Basic

/-! What an endpoint collects of the operation it stands for. Of every name and location that a path item and its
operation list a parameter for, the endpoint has one input, made from the last of those parameters and standing
among the inputs of its location where the first of them is listed. It has an outcome for every declared status, in
the order of the statuses, and a payload if a body is declared. -/
namespace ApiAtlas

namespace Parameter

variable {l : Location} {p : Parameter} {ps : List Parameter}

def namesAt (l : Location) (ps : List Parameter) : List String := (ps.filter (·.location = l)).map (·.name)

theorem namesAt_cons (l : Location) (p : Parameter) (ps : List Parameter) :
    namesAt l (p :: ps) = if p.location = l then p.name :: namesAt l ps else namesAt l ps := by
  by_cases here : p.location = l <;> simp [namesAt, here]

theorem namesAt_concat (l : Location) (ps : List Parameter) (p : Parameter) :
    namesAt l (ps ++ [p]) = if p.location = l then namesAt l ps ++ [p.name] else namesAt l ps := by
  by_cases here : p.location = l <;> simp [namesAt, here]

end Parameter

namespace Endpoint

open Parameter

variable {l : Location} {p : Parameter} {ps : List Parameter}

/-- A parameter adds its name at its location, unless the name is there. -/
theorem namesAt_putParameter : namesAt l (putParameter p ps) =
    if p.location = l ∧ p.name ∉ namesAt l ps then namesAt l ps ++ [p.name] else namesAt l ps := by
  induction ps with
  | nil => by_cases here : p.location = l <;> simp [putParameter, namesAt, here]
  | cons q rest ih =>
    unfold putParameter
    split
    next same => by_cases here : p.location = l <;> simp [namesAt_cons, same, here]
    next apart =>
      rw [namesAt_cons, namesAt_cons, ih]
      by_cases there : q.location = l
      · subst there
        by_cases here : p.location = q.location
        · have other : p.name ≠ q.name := fun same => apart ⟨same.symm, here.symm⟩
          by_cases known : p.name ∈ namesAt q.location rest <;> simp [here, other, known]
        · simp [here]
      · simp only [there, if_false]

/-- Merging keeps every name at a location once, in its first place. -/
theorem namesAt_merged (l : Location) (ps : List Parameter) : namesAt l (merged ps) = firsts (namesAt l ps) := by
  induction ps using List.reverseRecOn with
  | nil => rfl
  | append_singleton before p ih =>
    rw [merged_concat, namesAt_putParameter, namesAt_concat, ih]
    by_cases here : p.location = l
    · rw [if_pos here, firsts_concat]
      by_cases known : p.name ∈ firsts (namesAt l before) <;> simp [here, known]
    · simp only [here, false_and, if_false]

/-- Merging goes by names and locations alone. -/
theorem merged_map {fill : Parameter → Parameter}
    (kept : ∀ p, (fill p).name = p.name ∧ (fill p).location = p.location) (ps : List Parameter) :
    merged (ps.map fill) = (merged ps).map fill := by
  have put (p : Parameter) (ps : List Parameter) :
      putParameter (fill p) (ps.map fill) = (putParameter p ps).map fill := by
    induction ps with
    | nil => rfl
    | cons q rest ih =>
      simp only [putParameter, List.map_cons, (kept p).1, (kept p).2, (kept q).1, (kept q).2]
      split
      · rfl
      · rw [ih, List.map_cons]
  induction ps using List.reverseRecOn with
  | nil => rfl
  | append_singleton before p ih =>
    rw [List.map_append, List.map_singleton, merged_concat, merged_concat, ih, put]

end Endpoint

/-- The response that a component section gives for a reference, or the one in place. -/
def Components.response? (c : Components) (r : RefOr Response) : Option Response :=
  r.definition? "responses" c.responses

/-- A reference with an intact pointer has a definition. -/
theorem RefOr.isSome_definition {α : Type} {c : Components} (kind : Pointer.Kind) {table : Table (RefOr α)}
    (defines : ∀ key, c.defines key kind = ((table.get? key).bind RefOr.inline?).isSome) {r : RefOr α}
    (intact : ∀ p ∈ Pointer.ofRef kind r, p.Intact c) : (r.definition? kind.sectionName table).isSome = true := by
  cases r with
  | inline a => rfl
  | ref path =>
    have sound := (intact ⟨kind, path⟩ (List.mem_singleton_self _)).fault?
    rw [Pointer.fault?_eq_of_find defines] at sound
    rw [RefOr.definition?]
    cases found : Reference.find kind.sectionName table path with
    | ok a => rfl
    | error e => simp [found] at sound

namespace Inlined

variable {c : Components} {g : SchemaRef → SchemaRef}

/-- What is in place after references are inlined are the definitions. -/
theorem inline?_definition {α : Type} {section_ : String} {table : Table (RefOr α)} {fill : α → α} (r : RefOr α) :
    (definition section_ table fill r).inline? = (r.definition? section_ table).map fill := by
  unfold definition
  cases r with
  | inline a => rfl
  | ref path =>
    cases found : RefOr.definition? section_ table (.ref path) with
    | none => rfl
    | some a => rfl

theorem operations_pathItem (i : PathItem) :
    (pathItem c g i).operations = i.operations.map fun (v, o) => (v, operation c g o) := by
  rw [PathItem.operations, PathItem.operations, List.map_filterMap]
  refine List.filterMap_congr fun v _ => ?_
  rw [operation?_pathItem, Option.map_map, Option.map_map]
  rfl

/-- The parameters of an operation with references inlined, merged. -/
theorem mergeParameters_inlined {item : PathItem} {o : Operation} {listed : List Parameter}
    (defined : (item.parameters ++ o.parameters).map c.parameter? = listed.map some) :
    Endpoint.mergeParameters (pathItem c g item).parameters (operation c g o).parameters =
      (Endpoint.merged listed).map (parameter c g) := by
  have kept (p : Parameter) : (parameter c g p).name = p.name ∧ (parameter c g p).location = p.location := ⟨rfl, rfl⟩
  have whole : (pathItem c g item).parameters ++ (operation c g o).parameters =
      (item.parameters ++ o.parameters).map (parameterRef c g) := List.map_append.symm
  have each : RefOr.inline? ∘ parameterRef c g = fun r => (c.parameter? r).map (parameter c g) :=
    funext fun r => inline?_definition r
  have inlined : ((item.parameters ++ o.parameters).map (parameterRef c g)).filterMap RefOr.inline? =
      listed.map (parameter c g) := by
    calc _ = ((item.parameters ++ o.parameters).map c.parameter?).filterMap (Option.map (parameter c g)) := by
          rw [List.filterMap_map, List.filterMap_map, each]; rfl
      _ = listed.map (parameter c g) := by simp [defined, List.filterMap_map]
  rw [Endpoint.mergeParameters, whole, inlined]
  exact Endpoint.merged_map kept listed

end Inlined

structure Declaration where
  path : String
  item : PathItem
  verb : Verb
  operation : Operation

namespace Declaration

/-- The parameters that count for an operation: those of the path item, then its own. -/
def parameters (s : Declaration) : List (RefOr Parameter) := s.item.parameters ++ s.operation.parameters

end Declaration

def Document.declarations (d : Document) : List Declaration :=
  d.paths.flatMap fun (path, item) => item.operations.map fun (v, o) => ⟨path, item, v, o⟩

/-- An input has what a parameter declares, with schema references expanded and examples by reference looked up.
In the path it is required in any case. -/
structure Input.Tells (c : Components) (p : Parameter) (i : Input) : Prop where
  name : i.name = p.name
  location : i.location = p.location
  description : i.description = p.description
  required : i.required = (p.required || p.location == .path)
  deprecated : i.deprecated = p.deprecated.getD false
  shape : i.shape = (p.schema.map fun s => Shape.ofRef (s.expand c.schemas [])).getD .any
  examples : i.examples = NamedExample.ofTable (Resolve.examples c p.examples)
  sample : i.sample = p.sample.or (i.examples.head?.map (·.value))

structure Outcome.Tells (r : Response) (o : Outcome) : Prop where
  description : o.description = r.description
  contentTypes : o.contentTypes = r.content.keys

structure Payload.Tells (b : RequestBody) (p : Payload) : Prop where
  description : p.description = b.description
  required : p.required = b.required
  contentTypes : p.contentTypes = b.content.keys

/-- What an endpoint has of an operation, given the parameters that are listed for it. -/
structure Endpoint.Collects (c : Components) (s : Declaration) (listed : List Parameter) (e : Endpoint) : Prop where
  path : e.path = s.path
  method : e.method = s.verb.text
  sorted : ∀ l, e.inputs.filter (·.location = l) = e.inputsAt l
  /-- There is one input for every name and location, in the place of the first parameter that has them. -/
  names : ∀ l, (e.inputsAt l).map (·.name) = firsts (Parameter.namesAt l listed)
  /-- It is made from the last parameter that has them. -/
  inputs : ∀ i ∈ e.inputs, ∃ p : Parameter, p.Last listed ∧ i.Tells c p
  statuses : e.outcomes.keys = s.operation.responses.keys
  outcomes : List.Forall₂ (fun entry outcome => entry.1 = outcome.1 ∧
    ∃ r, c.response? entry.2 = some r ∧ outcome.2.Tells r) s.operation.responses e.outcomes
  payload : Option.Rel (fun body payload => ∃ b, c.body? body = some b ∧ payload.Tells b)
    s.operation.requestBody e.payload

section Filled

variable (c : Components) (g : SchemaRef → SchemaRef)

theorem Input.tells_ofParameter (p : Parameter) :
    (Input.ofParameter (Inlined.parameter c (SchemaRef.expand c.schemas []) p)).Tells c p := by
  have shape : ((p.schema.map (SchemaRef.expand c.schemas [])).map Shape.ofRef).getD .any =
      (p.schema.map fun s => Shape.ofRef (s.expand c.schemas [])).getD .any := by
    rw [Option.map_map]
    rfl
  exact ⟨rfl, rfl, rfl, rfl, rfl, shape, rfl, rfl⟩

/-- Inlining keeps the content types. -/
theorem Inlined.keys_content (content : Table MediaType) :
    Table.keys (content.map fun p => (p.1, mediaType c g p.2)) = content.keys := by
  simp [Table.keys, Function.comp_def]

theorem Outcome.tells_ofResponse (r : Response) : (Outcome.ofResponse (Inlined.response c g r)).Tells r :=
  ⟨rfl, Inlined.keys_content c g r.content⟩

theorem Payload.tells_ofBody (b : RequestBody) : (Payload.ofBody (Inlined.body c g b)).Tells b :=
  ⟨rfl, rfl, Inlined.keys_content c g b.content⟩

end Filled

/-- A choice that takes every item keeps the items in their order. -/
theorem forall₂_filterMap {α β : Type} {R : α → β → Prop} {f : α → Option β} {items : List α}
    (each : ∀ a ∈ items, ∃ b, f a = some b ∧ R a b) : List.Forall₂ R items (items.filterMap f) := by
  induction items with
  | nil => exact .nil
  | cons a rest ih =>
    obtain ⟨⟨b, taken, related⟩, others⟩ := List.forall_mem_cons.mp each
    rw [List.filterMap_cons, taken]
    exact .cons related (ih others)

theorem map_eq_map_some {α β : Type} {f : α → Option β} {items : List α}
    (each : ∀ a ∈ items, (f a).isSome = true) : items.map f = (items.filterMap f).map some := by
  have related : List.Forall₂ (fun a b => f a = some b) items (items.filterMap f) :=
    forall₂_filterMap fun a member => by simpa using Option.isSome_iff_exists.mp (each a member)
  rw [← List.forall₂_eq_eq_eq, List.forall₂_map_left_iff, List.forall₂_map_right_iff]
  exact related

namespace Endpoint

open Inlined

variable {c : Components} {d : Document} {path : String} {item : PathItem} {v : Verb} {o : Operation} {l : Location}

/-- The inputs are sorted by location. -/
theorem filter_inputs_ofOperation (l : Location) : (ofOperation d path item v o).inputs.filter (·.location = l) =
    (ofOperation d path item v o).inputsAt l := by
  simp only [inputs_ofOperation, inputsAt_ofOperation, List.filter_flatMap, List.filter_filter]
  generalize (mergeParameters item.parameters o.parameters).map Input.ofParameter = all
  have other {m : Location} (apart : m ≠ l) : (all.filter fun i => i.location = l && i.location = m) = [] := by
    rw [List.filter_eq_nil_iff]
    intro i _ both
    simp only [Bool.and_eq_true, decide_eq_true_eq] at both
    exact apart (both.2.symm.trans both.1)
  cases l <;> simp [other]

/-- What an endpoint collects from definitions that stand in the places of references. -/
theorem collects_ofOperation {listed : List Parameter}
    (defined : (item.parameters ++ o.parameters).map c.parameter? = listed.map some)
    (bodies : ∀ b ∈ o.requestBody, (c.body? b).isSome = true)
    (responses : ∀ entry ∈ o.responses, (c.response? entry.2).isSome = true) :
    Collects c ⟨path, item, v, o⟩ listed (ofOperation d path
      (pathItem c (SchemaRef.expand c.schemas []) item) v (operation c (SchemaRef.expand c.schemas []) o)) := by
  generalize filled : SchemaRef.expand c.schemas [] = g
  have all (l : Location) : (ofOperation d path (pathItem c g item) v (operation c g o)).inputsAt l =
      (((merged listed).map (parameter c g)).map Input.ofParameter).filter (·.location = l) := by
    rw [inputsAt_ofOperation, mergeParameters_inlined defined]
  have outcomes : List.Forall₂ (fun entry outcome => entry.1 = outcome.1 ∧
      ∃ r, c.response? entry.2 = some r ∧ outcome.2.Tells r) o.responses
      (ofOperation d path (pathItem c g item) v (operation c g o)).outcomes := by
    have taken : (ofOperation d path (pathItem c g item) v (operation c g o)).outcomes =
        o.responses.filterMap fun entry =>
          (responseRef c g entry.2).inline?.map fun r => (entry.1, Outcome.ofResponse r) :=
      List.filterMap_map
    rw [taken]
    refine forall₂_filterMap fun entry member => ?_
    obtain ⟨r, found⟩ := Option.isSome_iff_exists.mp (responses entry member)
    have placed : (responseRef c g entry.2).inline? = some (response c g r) :=
      (inline?_definition entry.2).trans (congrArg (Option.map _) found)
    exact ⟨_, by rw [placed]; rfl, rfl, r, found, Outcome.tells_ofResponse c g r⟩
  constructor
  case path | method => rfl
  case sorted => exact filter_inputs_ofOperation
  case statuses => exact Table.keys_eq_of_forall₂ outcomes
  case outcomes => exact outcomes
  case names =>
    intro l
    rw [all, ← namesAt_merged, List.map_map, List.filter_map, List.map_map]
    rfl
  case inputs =>
    intro i member
    rw [inputs_ofOperation] at member
    obtain ⟨l, -, member⟩ := List.mem_flatMap.mp member
    rw [all] at member
    obtain ⟨q, inlined, rfl⟩ := List.mem_map.mp (List.mem_filter.mp member).1
    obtain ⟨p, kept, rfl⟩ := List.mem_map.mp inlined
    subst filled
    exact ⟨p, mem_merged_iff.mp kept, Input.tells_ofParameter c p⟩
  case payload =>
    cases declared : o.requestBody with
    | none =>
      have none : (ofOperation d path (pathItem c g item) v (operation c g o)).payload = none := by
        simp [ofOperation, operation, declared]
      rw [none]
      exact .none
    | some ref =>
      obtain ⟨b, found⟩ := Option.isSome_iff_exists.mp (bodies ref declared)
      have placed : (bodyRef c g ref).inline? = some (body c g b) :=
        (inline?_definition ref).trans (congrArg (Option.map _) found)
      have taken : (ofOperation d path (pathItem c g item) v (operation c g o)).payload =
          some (Payload.ofBody (body c g b)) := by
        simp [ofOperation, operation, declared, placed]
      rw [taken]
      exact .some ⟨b, found, Payload.tells_ofBody c g b⟩

end Endpoint

namespace Discovery

variable {d : Discovery} {doc : Document}

/-- The endpoints are those of the declared operations with references inlined, in their order. -/
theorem endpoints_inlined {c : Components} {g : SchemaRef → SchemaRef}
    (inlined : d.document = Inlined.document c g doc) : d.endpoints = doc.declarations.map fun s =>
      .ofOperation d.document s.path (Inlined.pathItem c g s.item) s.verb (Inlined.operation c g s.operation) := by
  have paths : d.document.paths = doc.paths.map fun p => (p.1, Inlined.pathItem c g p.2) := by rw [inlined]; rfl
  simp only [endpoints, paths, List.flatMap_map, Inlined.operations_pathItem, List.map_map, Document.declarations,
    List.map_flatMap]
  rfl

/-- What stands under a declared operation stands in the document. -/
theorem mem_pointers_of_declaration {s : Declaration} (member : s ∈ doc.declarations) {p : Pointer}
    (inside : p ∈ s.item.parameters.flatMap (Pointer.ofRef .parameter) ∨ p ∈ s.operation.pointers) :
    p ∈ doc.pointers := by
  obtain ⟨⟨path, item⟩, entry, listed⟩ := List.mem_flatMap.mp member
  obtain ⟨⟨v, o⟩, verb, rfl⟩ := List.mem_map.mp listed
  refine List.mem_append_left _ (List.mem_flatMap.mpr ⟨(path, item), entry, ?_⟩)
  rw [PathItem.pointers, List.mem_append]
  exact inside.imp_right fun inside => List.mem_flatMap.mpr ⟨(v, o), verb, inside⟩

/-- Every declared operation has its endpoint, and nothing of it is lost: the parameters are all defined, and the
endpoint has one input for each name and location among them, an outcome for each status, and the body. -/
theorem collects_declared (made : ofDocument doc = .ok d) : List.Forall₂ (fun s e => ∃ listed,
    s.parameters.map doc.parts.parameter? = listed.map some ∧ e.Collects doc.parts s listed)
    doc.declarations d.endpoints := by
  obtain ⟨intact, inlined⟩ := Document.resolve_eq_ok_iff.mp (resolve_of_ofDocument made)
  rw [endpoints_inlined inlined.symm]
  refine Inlined.forall₂_of_forall_mem fun s member => ?_
  have sound (p : Pointer) (inside : p ∈ s.item.parameters.flatMap (Pointer.ofRef .parameter) ∨
      p ∈ s.operation.pointers) : p.Intact doc.parts := intact p (mem_pointers_of_declaration member inside)
  have parameters : ∀ r ∈ s.parameters, (doc.parts.parameter? r).isSome = true := by
    intro r listed
    refine RefOr.isSome_definition .parameter (fun _ => rfl) fun p inside => sound p ?_
    have pointed {rs : List (RefOr Parameter)} (member : r ∈ rs) : p ∈ rs.flatMap (Pointer.ofRef .parameter) :=
      List.mem_flatMap.mpr ⟨r, member, inside⟩
    refine (List.mem_append.mp listed).imp pointed fun own => ?_
    simp only [Operation.pointers, List.mem_append]
    exact .inl (.inl (pointed own))
  have bodies : ∀ b ∈ s.operation.requestBody, (doc.parts.body? b).isSome = true := by
    intro b declared
    refine RefOr.isSome_definition .body (fun _ => rfl) fun p inside => sound p (.inr ?_)
    simp only [Operation.pointers, List.mem_append, List.mem_flatMap]
    exact .inl (.inr ⟨b, by simpa using declared, inside⟩)
  have responses : ∀ entry ∈ s.operation.responses, (doc.parts.response? entry.2).isSome = true := by
    intro entry declared
    refine RefOr.isSome_definition .response (fun _ => rfl) fun p inside => sound p (.inr ?_)
    simp only [Operation.pointers, List.mem_append, List.mem_flatMap]
    exact .inr ⟨entry, declared, inside⟩
  have defined := map_eq_map_some parameters
  exact ⟨_, defined, Endpoint.collects_ofOperation defined bodies responses⟩

/-- A document with one operation, that replaces a parameter of its path item and refers to one by name. -/
def Document.kennel : Document where
  paths := [("/dogs/\x7bid\x7d", {
    parameters := [.inline { name := "id", location := .path }, .inline { name := "limit", location := .query }]
    get := some {
      parameters := [.ref "#/components/parameters/Trace",
        .inline { name := "id", location := .query }, .inline { name := "limit", location := .query, required := true }]
      responses := [("404", .inline {}), ("200", .inline {})] } })]
  components := some { parameters := [("Trace", .inline { name := "trace", location := .header })] }

/-- The limit keeps its place before the other parameter of the query and is required, the identifier in the path is
required too, and the parameter by reference is there. -/
theorem dogs_collected : ∃ d e, ofDocument Document.kennel = .ok d ∧ d.endpoints = [e] ∧
    e.pathInputs.map (·.name) = ["id"] ∧ e.queryInputs.map (·.name) = ["limit", "id"] ∧
    e.headerInputs.map (·.name) = ["trace"] ∧ e.cookieInputs = [] ∧
    (∀ i ∈ e.inputs, i.location = .path ∨ i.name = "limit" → i.required = true) ∧
    e.outcomes.keys = ["404", "200"] ∧ e.payload = none := by
  obtain ⟨d, made⟩ : ∃ d, ofDocument Document.kennel = .ok d := by
    rw [ofDocument, Document.resolve_eq]
    exact ⟨_, rfl⟩
  obtain ⟨e, rest, ⟨listed, defined, collected⟩, alone, whole⟩ :=
    List.forall₂_cons_left_iff.mp (collects_declared made)
  obtain rfl := List.forall₂_nil_left_iff.mp alone
  have resolved : [({ name := "id", location := .path } : Parameter), { name := "limit", location := .query },
      { name := "trace", location := .header }, { name := "id", location := .query },
      { name := "limit", location := .query, required := true }].map some = listed.map some := defined
  obtain rfl := List.map_injective_iff.mpr (Option.some_injective Parameter) resolved
  refine ⟨d, e, made, whole, collected.names .path, collected.names .query, collected.names .header,
    List.map_eq_nil_iff.mp (collected.names .cookie), ?_, collected.statuses, ?_⟩
  · intro i member asked
    obtain ⟨p, last, tells⟩ := collected.inputs i member
    have counts := Endpoint.mem_merged_iff.mpr last
    rw [tells.location, tells.name] at asked
    rw [tells.required]
    simp [Endpoint.merged, Endpoint.putParameter] at counts
    rcases counts with rfl | rfl | rfl | rfl <;> simp at asked ⊢
  · have bodiless : Option.Rel (fun body payload => ∃ b, Document.kennel.parts.body? body = some b ∧
        Payload.Tells b payload) none e.payload := collected.payload
    generalize e.payload = taken at bodiless
    cases bodiless
    rfl

end Discovery
end ApiAtlas
