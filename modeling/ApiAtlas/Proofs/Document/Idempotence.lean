import ApiAtlas.Proofs.Document.Leftover
import ApiAtlas.Proofs.Document.Pointers

/-! Resolution twice. What is inlined holds no references but those that lead nowhere, so that a second
resolution finds nothing to do, although it looks up schemas among components that are resolved already. A
document without references is left as it is by the first one. -/
namespace ApiAtlas

open Relation (TransGen)

namespace SchemaRef

variable {schemas : Table SchemaRef} {s : SchemaRef} {q : String}

/-- Expansion changes nothing but references that lead somewhere. -/
theorem expand_eq_self (s : SchemaRef) : (∀ q, s.Mentions q → target? schemas q = none) →
    expand schemas [] s = s := by
  induction s using induct with
  | ref p =>
    intro dangling
    rw [expand_ref, dangling p (.ref p)]
    simp
  | inline keywords parts ih =>
    intro dangling
    have each : parts.map (expand schemas []) = parts.map id :=
      Subschemas.map_congr fun s member => ih s member fun q inside => dangling q (.part member inside)
    rw [expand_inline, each, Subschemas.map_id]

/-- A reference leads nowhere among schemas that have been replaced one by one if it did before. -/
theorem target?_map (f : SchemaRef → SchemaRef) (schemas : Table SchemaRef) (q : String) :
    target? (schemas.map fun p => (p.1, f p.2)) q = (target? schemas q).map f := by
  unfold target? Reference.lookup?
  cases Reference.name "schemas" q with
  | error e => rfl
  | ok key => exact Table.lookup_map f schemas key

/-- Among components without cycles an expansion is not changed by another one. -/
theorem expand_expand (acyclic : ∀ key, ¬ TransGen (Uses schemas) key key) (s : SchemaRef) :
    expand (schemas.map fun p => (p.1, expand schemas [] p.2)) [] (expand schemas [] s) =
      expand schemas [] s := by
  refine expand_eq_self _ fun q left => ?_
  have dangling : target? schemas q = none := by
    rcases dangling_or_cyclic [] s (Call.top s).stacked left with absent | cycle
    · exact absent
    · obtain ⟨key, -, back⟩ := uses_of_cycle cycle
      exact absurd back (acyclic key)
  rw [target?_map, dangling]
  rfl

end SchemaRef

def Table.InPlace {α : Type} (table : Table (RefOr α)) : Prop := ∀ entry ∈ table, ∃ a, entry.2 = .inline a

theorem Reference.inline_of_lookup? {α : Type} {section_ path : String} {table : Table (RefOr α)} {r : RefOr α}
    (inPlace : table.InPlace) (found : lookup? section_ table path = some r) : ∃ a, r = .inline a := by
  obtain ⟨key, member⟩ := mem_of_lookup? found
  exact inPlace _ member

namespace Inlined

/-- A function has nothing left to do where another one has been applied. -/
def Settles {α : Type} (f' f : α → α) : Prop := ∀ a, f' (f a) = f a

namespace Settles

variable {α : Type} {f f' : α → α} (settles : Settles f' f)
include settles

theorem option (o : Option α) : (o.map f).map f' = o.map f := by
  cases o with
  | none => rfl
  | some a => exact congrArg some (settles a)

theorem list (l : List α) : (l.map f).map f' = l.map f := by
  rw [List.map_map]
  exact List.map_congr_left fun a _ => settles a

theorem values (t : Table α) :
    ((t.map fun p => (p.1, f p.2)).map fun p => (p.1, f' p.2)) = t.map fun p => (p.1, f p.2) := by
  rw [List.map_map]
  exact List.map_congr_left fun p _ => congrArg (Prod.mk p.1) (settles p.2)

/-- A definition in place stays in place, and a reference that leads nowhere stays one. -/
theorem definition (section_ : String) (table : Table (RefOr α)) :
    Settles (definition section_ table f') (definition section_ table f) := by
  intro r
  cases found : r.definition? section_ table with
  | none => simp only [Inlined.definition, found]
  | some a =>
    have first : Inlined.definition section_ table f r = .inline (f a) := by
      simp only [Inlined.definition, found]
    rw [first]
    exact congrArg RefOr.inline (settles a)

end Settles

variable {c : Components} {schemas : Table SchemaRef} {g g' : SchemaRef → SchemaRef}

theorem examples_settle (inPlace : c.examples.InPlace) :
    Settles (Resolve.examples { c with schemas }) (Resolve.examples c) := by
  intro t
  simp only [Resolve.examples, List.map_map]
  refine List.map_congr_left fun entry _ => ?_
  obtain ⟨key, path | e⟩ := entry
  · cases found : Reference.lookup? "examples" c.examples path with
    | none => simp [found]
    | some target =>
      obtain ⟨e, rfl⟩ := Reference.inline_of_lookup? inPlace found
      simp [found]
  · rfl

section Parts

variable (settles : Settles g' g) (examples : c.examples.InPlace) (headers : c.headers.InPlace)
include settles

theorem headerSchema_settles : Settles (headerSchema g') (headerSchema g)
  | .ref _ => rfl
  | .inline h => by simp only [headerSchema, settles.option]

include headers in
theorem header_settles : Settles (header { c with schemas } g') (header c g)
  | .inline h => headerSchema_settles settles (.inline h)
  | .ref path => by
    cases found : Reference.lookup? "headers" c.headers path with
    | none => simp [header, found, headerSchema]
    | some target =>
      obtain ⟨h, rfl⟩ := Reference.inline_of_lookup? headers found
      have first : header c g (.ref path) = headerSchema g (.inline h) := by simp [header, found]
      rw [first]
      exact headerSchema_settles settles (.inline h)

include examples

theorem mediaType_settles : Settles (mediaType { c with schemas } g') (mediaType c g) := fun t => by
  simp only [mediaType, settles.option, examples_settle examples t.examples]

theorem parameter_settles : Settles (parameter { c with schemas } g') (parameter c g) := fun p => by
  simp only [parameter, settles.option, examples_settle examples p.examples]

theorem body_settles : Settles (body { c with schemas } g') (body c g) := fun b => by
  simp only [body, (mediaType_settles settles examples).values]

theorem parameterRef_settles : Settles (parameterRef { c with schemas } g') (parameterRef c g) :=
  (parameter_settles settles examples).definition _ _

theorem bodyRef_settles : Settles (bodyRef { c with schemas } g') (bodyRef c g) :=
  (body_settles settles examples).definition _ _

include headers

theorem response_settles : Settles (response { c with schemas } g') (response c g) := fun r => by
  simp only [response, (mediaType_settles settles examples).values, (header_settles settles headers).values]

theorem responseRef_settles : Settles (responseRef { c with schemas } g') (responseRef c g) :=
  (response_settles settles examples headers).definition _ _

theorem operation_settles : Settles (operation { c with schemas } g') (operation c g) := fun o => by
  simp only [operation, (parameterRef_settles settles examples).list, (bodyRef_settles settles examples).option,
    (responseRef_settles settles examples headers).values]

theorem pathItem_settles : Settles (pathItem { c with schemas } g') (pathItem c g) := fun i => by
  simp only [pathItem, (parameterRef_settles settles examples).list,
    (operation_settles settles examples headers).option]

/-- Inlined parts are not changed when schemas that are settled take the place of those of the components. -/
theorem document_settles : Settles (document { c with schemas } g') (document c g) := fun d => by
  have components : Settles (fun own : Components => { own with schemas := own.schemas.map fun p => (p.1, g' p.2) })
      (fun own => { own with schemas := own.schemas.map fun p => (p.1, g p.2) }) := fun own => by
    simp only [settles.values]
  simp only [document, (pathItem_settles settles examples headers).values, components.option]

end Parts

def Clears {α : Type} (c : Components) (pointers : α → List Pointer) (f : α → α) : Prop :=
  ∀ a, (∀ p ∈ pointers a, p.Intact c) → pointers (f a) = []

namespace Clears

variable {α : Type} {pointers : α → List Pointer} {f : α → α} (clears : Clears c pointers f)
include clears

theorem list : Clears c (List.flatMap pointers) (List.map f) := by
  intro l intact
  rw [List.flatMap_map, List.flatMap_eq_nil_iff]
  exact fun a member => clears a fun p inside => intact p (List.mem_flatMap.mpr ⟨a, member, inside⟩)

theorem values : Clears c (List.flatMap fun p : String × α => pointers p.2) (List.map fun p => (p.1, f p.2)) :=
  list fun p => clears p.2

theorem option : Clears c (fun o : Option α => o.toList.flatMap pointers) (Option.map f) := by
  intro o intact
  cases o with
  | none => rfl
  | some a =>
    simp only [Option.toList_some, List.flatMap_singleton] at intact
    simpa using clears a intact

end Clears

theorem definition_clears {α : Type} (kind : Pointer.Kind) {table : Table (RefOr α)} {fill : α → α}
    (leads : ∀ path, Pointer.Leads c ⟨kind, path⟩ 1 → ∃ a, (RefOr.ref path).Leads kind.sectionName table 1 a) :
    Clears c (Pointer.ofRef kind) (definition kind.sectionName table fill) := by
  intro r intact
  have placed : r.Placed kind.sectionName table fill _ := definition_placed kind leads intact
  obtain ⟨n, a, -, same⟩ := placed
  rw [same]
  rfl

theorem parameters_clear : Clears c (List.flatMap (Pointer.ofRef .parameter)) (List.map (parameterRef c g)) :=
  (definition_clears .parameter fun _ => id).list

theorem operation_clears : Clears c Operation.pointers (operation c g) := by
  intro o intact
  obtain ⟨intact, responses⟩ := List.forall_mem_append.mp intact
  obtain ⟨parameters, body⟩ := List.forall_mem_append.mp intact
  have bodies : Clears c (Pointer.ofRef .body) (bodyRef c g) := definition_clears .body fun _ => id
  have replies : Clears c (Pointer.ofRef .response) (responseRef c g) := definition_clears .response fun _ => id
  refine List.append_eq_nil_iff.mpr ⟨List.append_eq_nil_iff.mpr ⟨?_, ?_⟩, ?_⟩
  · exact parameters_clear _ parameters
  · exact bodies.option _ body
  · exact replies.values _ responses

theorem pathItem_clears : Clears c PathItem.pointers (pathItem c g) := by
  intro i intact
  rw [PathItem.pointers_eq] at intact ⊢
  obtain ⟨parameters, operations⟩ := List.forall_mem_append.mp intact
  refine List.append_eq_nil_iff.mpr ⟨parameters_clear _ parameters, List.flatMap_eq_nil_iff.mpr fun v member => ?_⟩
  rw [operation?_pathItem]
  exact operation_clears.option _ fun p inside => operations p (List.mem_flatMap.mpr ⟨v, member, inside⟩)

theorem document_clears : Clears c Document.pointers (document c g) := by
  intro d intact
  obtain ⟨paths, webhooks⟩ := List.forall_mem_append.mp intact
  exact List.append_eq_nil_iff.mpr ⟨pathItem_clears.values _ paths, pathItem_clears.values _ webhooks⟩

end Inlined

/-- The components of a resolved document are those that were there, with other schemas. -/
theorem Document.parts_inlined (d : Document) (c : Components) (g : SchemaRef → SchemaRef) :
    (Inlined.document c g d).parts =
      { d.parts with schemas := d.parts.schemas.map fun p => (p.1, g p.2) } := by
  cases found : d.components <;> simp [Inlined.document, parts, found]

/-- A resolved document is not changed by another resolution. -/
theorem Document.resolve_resolved {d r : Document} (resolved : d.resolve = .ok r)
    (acyclic : ∀ key, ¬ TransGen (SchemaRef.Uses d.parts.schemas) key key)
    (headers : d.parts.headers.InPlace) (examples : d.parts.examples.InPlace) : r.resolve = .ok r := by
  obtain ⟨intact, rfl⟩ := resolve_eq_ok_iff.mp resolved
  refine resolve_eq_ok_iff.mpr ⟨?_, ?_⟩
  · rw [Inlined.document_clears d intact]
    exact fun p absent => absurd absent List.not_mem_nil
  · rw [parts_inlined]
    exact Inlined.document_settles (SchemaRef.expand_expand acyclic) examples headers d

/-! Parts of a document in which no reference stands. -/
section Free

def SchemaRef.Free (s : SchemaRef) : Prop := ∀ q, ¬ s.Mentions q

def RefOr.Free {α : Type} (inside : α → Prop) : RefOr α → Prop
  | .ref _ => False
  | .inline a => inside a

structure MediaType.Free (t : MediaType) : Prop where
  schema : ∀ s ∈ t.schema, s.Free
  examples : t.examples.InPlace

structure Parameter.Free (p : Parameter) : Prop where
  schema : ∀ s ∈ p.schema, s.Free
  examples : p.examples.InPlace

def Header.Free (h : Header) : Prop := ∀ s ∈ h.schema, s.Free

def RequestBody.Free (b : RequestBody) : Prop := ∀ entry ∈ b.content, entry.2.Free

structure Response.Free (r : Response) : Prop where
  content : ∀ entry ∈ r.content, entry.2.Free
  headers : ∀ entry ∈ r.headers, entry.2.Free Header.Free

structure Operation.Free (o : Operation) : Prop where
  parameters : ∀ p ∈ o.parameters, p.Free Parameter.Free
  requestBody : ∀ b ∈ o.requestBody, b.Free RequestBody.Free
  responses : ∀ entry ∈ o.responses, entry.2.Free Response.Free

structure PathItem.Free (i : PathItem) : Prop where
  parameters : ∀ p ∈ i.parameters, p.Free Parameter.Free
  operation : ∀ v, ∀ o ∈ i.operation? v, o.Free

/-- No reference stands in the paths, the webhooks or the schemas of the components. -/
structure Document.Free (d : Document) : Prop where
  paths : ∀ entry ∈ d.paths, entry.2.Free
  webhooks : ∀ entry ∈ d.webhooks, entry.2.Free
  schemas : ∀ entry ∈ d.parts.schemas, entry.2.Free

end Free

namespace Inlined

def Fixes {α : Type} (P : α → Prop) (f : α → α) : Prop := ∀ a, P a → f a = a

namespace Fixes

variable {α : Type} {P : α → Prop} {f : α → α} (fixes : Fixes P f)
include fixes

theorem list : Fixes (fun l => ∀ a ∈ l, P a) (List.map f) := fun l each =>
  (List.map_congr_left fun a member => fixes a (each a member)).trans (List.map_id' l)

theorem values : Fixes (fun t => ∀ entry ∈ t, P entry.2) (List.map fun p : String × α => (p.1, f p.2)) := 
  list fun p holds => Prod.ext rfl (fixes p.2 holds)

theorem option : Fixes (fun o => ∀ a ∈ o, P a) (Option.map f) := by
  intro o each
  cases o with
  | none => rfl
  | some a => exact congrArg some (fixes a (each a rfl))

theorem definition (section_ : String) (table : Table (RefOr α)) :
    Fixes (RefOr.Free P) (definition section_ table f)
  | .ref _, free => free.elim
  | .inline a, free => congrArg RefOr.inline (fixes a free)

end Fixes

variable {c : Components} {g : SchemaRef → SchemaRef}

theorem examples_fixes : Fixes Table.InPlace (Resolve.examples c) := by
  intro t inPlace
  refine (List.map_congr_left fun entry member => ?_).trans (List.map_id' t)
  obtain ⟨key, r⟩ := entry
  obtain ⟨e, rfl⟩ : ∃ e, r = .inline e := inPlace _ member
  rfl

section Parts

variable (fixes : Fixes SchemaRef.Free g)
include fixes

theorem mediaType_fixes : Fixes MediaType.Free (mediaType c g) := fun t free => by
  simp only [mediaType, fixes.option t.schema free.schema, examples_fixes t.examples free.examples]

theorem parameter_fixes : Fixes Parameter.Free (parameter c g) := fun p free => by
  simp only [parameter, fixes.option p.schema free.schema, examples_fixes p.examples free.examples]

theorem header_fixes : Fixes (RefOr.Free Header.Free) (header c g)
  | .ref _, free => free.elim
  | .inline h, free => by simp only [header, headerSchema, fixes.option h.schema free]

theorem body_fixes : Fixes RequestBody.Free (body c g) := fun b free => by
  simp only [body, (mediaType_fixes fixes).values b.content free]

theorem response_fixes : Fixes Response.Free (response c g) := fun r free => by
  simp only [response, (mediaType_fixes fixes).values r.content free.content,
    (header_fixes fixes).values r.headers free.headers]

theorem parameterRef_fixes : Fixes (RefOr.Free Parameter.Free) (parameterRef c g) :=
  (parameter_fixes fixes).definition _ _

theorem operation_fixes : Fixes Operation.Free (operation c g) := fun o free => by
  have bodies : Fixes (RefOr.Free RequestBody.Free) (bodyRef c g) := (body_fixes fixes).definition _ _
  have replies : Fixes (RefOr.Free Response.Free) (responseRef c g) := (response_fixes fixes).definition _ _
  simp only [operation, (parameterRef_fixes fixes).list o.parameters free.parameters,
    bodies.option o.requestBody free.requestBody, replies.values o.responses free.responses]

theorem pathItem_fixes : Fixes PathItem.Free (pathItem c g) := fun i free => by
  have verb (v : Verb) : (i.operation? v).map (operation c g) = i.operation? v :=
    (operation_fixes fixes).option _ (free.operation v)
  simp only [PathItem.operation?] at verb
  simp only [pathItem, (parameterRef_fixes fixes).list i.parameters free.parameters, verb .get, verb .put,
    verb .post, verb .delete, verb .options, verb .head, verb .patch, verb .trace]

theorem document_fixes : Fixes Document.Free (document c g) := fun d free => by
  have components : d.components.map (fun own => { own with schemas := own.schemas.map fun p => (p.1, g p.2) }) =
      d.components := by
    have schemas := fixes.values d.parts.schemas free.schemas
    cases found : d.components with
    | none => rfl
    | some own =>
      simp only [Document.parts, found, Option.getD_some] at schemas
      simp only [Option.map_some, schemas]
  simp only [document, (pathItem_fixes fixes).values d.paths free.paths,
    (pathItem_fixes fixes).values d.webhooks free.webhooks, components]

end Parts
end Inlined

theorem RefOr.Free.ofRef_eq_nil {α : Type} {P : α → Prop} {r : RefOr α} (free : r.Free P) (kind : Pointer.Kind) :
    Pointer.ofRef kind r = [] := by
  cases r with
  | ref path => exact free.elim
  | inline a => rfl

theorem Operation.Free.pointers_eq_nil {o : Operation} (free : o.Free) : o.pointers = [] := by
  simp only [pointers, List.append_eq_nil_iff, List.flatMap_eq_nil_iff, Option.mem_toList]
  exact ⟨⟨fun p member => (free.parameters p member).ofRef_eq_nil _,
    fun b declared => (free.requestBody b declared).ofRef_eq_nil _⟩,
    fun entry member => (free.responses entry member).ofRef_eq_nil _⟩

theorem PathItem.Free.pointers_eq_nil {i : PathItem} (free : i.Free) : i.pointers = [] := by
  simp only [pointers_eq, List.append_eq_nil_iff, List.flatMap_eq_nil_iff, Option.mem_toList]
  exact ⟨fun p member => (free.parameters p member).ofRef_eq_nil _,
    fun v _ o declared => (free.operation v o declared).pointers_eq_nil⟩

theorem Document.Free.pointers_eq_nil {d : Document} (free : d.Free) : d.pointers = [] := by
  simp only [pointers, List.append_eq_nil_iff, List.flatMap_eq_nil_iff]
  exact ⟨fun entry member => (free.paths entry member).pointers_eq_nil,
    fun entry member => (free.webhooks entry member).pointers_eq_nil⟩

/-- A document without references is left as it is. -/
theorem Document.Free.resolve_eq {d : Document} (free : d.Free) : d.resolve = .ok d := by
  refine resolve_eq_ok_iff.mpr ⟨?_, ?_⟩
  · rw [free.pointers_eq_nil]
    exact fun p absent => absurd absent List.not_mem_nil
  · refine Inlined.document_fixes (fun s free => ?_) d free
    exact SchemaRef.expand_eq_self s fun q inside => absurd inside (free q)

/-- Resolution changes nothing but references, and those at once: among components without cycles, with
headers and examples defined in place, a resolved document is resolved as itself; and so is a document in
which no reference stands. -/
theorem Document.resolve_idempotent (d : Document) :
    (∀ r, d.resolve = .ok r → (∀ key, ¬ TransGen (SchemaRef.Uses d.parts.schemas) key key) →
      d.parts.headers.InPlace → d.parts.examples.InPlace → r.resolve = .ok r) ∧
    (d.Free → d.resolve = .ok d) :=
  ⟨fun _ resolved acyclic headers examples => resolve_resolved resolved acyclic headers examples,
    fun free => free.resolve_eq⟩

def Document.shelf : Document where
  paths := [("/books", { get := some {
    parameters := [.ref "#/components/parameters/Limit"]
    responses := [("200", .inline { headers := [("X-Rate", .ref "#/components/headers/Rate")] })] } })]
  components := some {
    parameters := [("Limit", .inline { name := "limit", location := .query,
                                       schema := some (.ref "#/components/schemas/Shelf") })]
    headers := [("Rate", .inline { schema := some (.ref "#/components/schemas/Book") })]
    schemas := [
      ("Shelf", .inline {} { items := some (.ref "#/components/schemas/Book"),
                             not := some (.ref "#/components/schemas/Gone") }),
      ("Book", .inline {} {})] }

theorem Document.uses_shelf {a b : String} (uses : SchemaRef.Uses Document.shelf.parts.schemas a b) :
    a = "Shelf" ∧ b ≠ "Shelf" := by
  obtain ⟨s, q, found, inside, named⟩ := uses
  have entry : (a, s) ∈ Document.shelf.parts.schemas := Table.mem_of_get? found
  simp only [shelf, parts, Option.getD_some, List.mem_cons, Prod.mk.injEq, List.not_mem_nil, or_false] at entry
  rcases entry with ⟨rfl, rfl⟩ | ⟨rfl, rfl⟩
  · refine ⟨rfl, ?_⟩
    rintro rfl
    obtain ⟨part, member, inside⟩ := SchemaRef.mentions_inline_iff.mp inside
    have listed : part = .ref "#/components/schemas/Book" ∨ part = .ref "#/components/schemas/Gone" := by
      simpa [Subschemas.toList, AdditionalSpec.toList] using member
    rcases listed with rfl | rfl
    · obtain rfl := SchemaRef.mentions_ref_iff.mp inside
      exact absurd named (by decide)
    · obtain rfl := SchemaRef.mentions_ref_iff.mp inside
      exact absurd named (by decide)
  · obtain ⟨part, member, -⟩ := SchemaRef.mentions_inline_iff.mp inside
    simp [Subschemas.toList, AdditionalSpec.toList] at member

def Document.ping : Document where
  paths := [("/ping", { get := some {} })]

theorem Document.free_ping : Document.ping.Free := by
  refine ⟨fun entry member => ?_, by simp [ping], by simp [ping, parts]⟩
  obtain rfl := List.mem_singleton.mp member
  refine ⟨by simp, fun v o declared => ?_⟩
  cases v with
  | get =>
    obtain rfl := Option.some.inj declared
    exact ⟨by simp, by simp, by simp⟩
  | _ => cases declared

/-- The one is resolved once and for all, although a reference is left in it; the other needs no resolution. -/
theorem Document.shelf_resolved_once :
    (∃ r, Document.shelf.resolve = .ok r ∧ r.resolve = .ok r) ∧ Document.ping.resolve = .ok Document.ping := by
  have only : Document.shelf.pointers = [⟨.parameter, "#/components/parameters/Limit"⟩] := rfl
  have intact : ∀ p ∈ Document.shelf.pointers, p.Intact Document.shelf.parts := by
    simp only [only, List.mem_singleton, forall_eq]
    exact ⟨"Limit", by decide, rfl⟩
  have acyclic : ∀ key, ¬ TransGen (SchemaRef.Uses Document.shelf.parts.schemas) key key := by
    intro key cycle
    obtain ⟨_, first, -⟩ := TransGen.head'_iff.mp cycle
    obtain ⟨_, -, last⟩ := TransGen.tail'_iff.mp cycle
    exact (Document.uses_shelf last).2 (Document.uses_shelf first).1
  have resolved := Document.resolve_eq_ok_iff.mpr ⟨intact, rfl⟩
  have headers : Document.shelf.parts.headers.InPlace := fun entry member =>
    ⟨_, congrArg Prod.snd (List.mem_singleton.mp member)⟩
  have examples : Document.shelf.parts.examples.InPlace := fun _ absent => nomatch absent
  exact ⟨⟨_, resolved, (Document.resolve_idempotent Document.shelf).1 _ resolved acyclic headers examples⟩,
    (Document.resolve_idempotent Document.ping).2 Document.free_ping⟩

end ApiAtlas
