import ApiAtlas.Proofs.Document.Resolution
import ApiAtlas.Proofs.Table

/-! The schemas of a document by the places where they stand: in parameters, bodies, responses and headers
of its paths and webhooks, and among its components. A reference of another kind brings along the schemas of
the component that takes its place. Resolution puts nothing into a document but expansions of schemas that
stood in it before. -/
namespace ApiAtlas

/-! The places. -/
section Places

def RefOr.schemas {α : Type} (inside : α → List SchemaRef) : RefOr α → List SchemaRef
  | .ref _ => []
  | .inline a => inside a

def Table.schemas {α : Type} (inside : α → List SchemaRef) (table : Table α) : List SchemaRef :=
  table.flatMap fun entry => inside entry.2

def MediaType.schemas (t : MediaType) : List SchemaRef := t.schema.toList

def Parameter.schemas (p : Parameter) : List SchemaRef := p.schema.toList

def Header.schemas (h : Header) : List SchemaRef := h.schema.toList

def RequestBody.schemas (b : RequestBody) : List SchemaRef := b.content.schemas MediaType.schemas

def Response.schemas (r : Response) : List SchemaRef :=
  r.content.schemas MediaType.schemas ++ r.headers.schemas (RefOr.schemas Header.schemas)

def Operation.schemas (o : Operation) : List SchemaRef :=
  o.parameters.flatMap (RefOr.schemas Parameter.schemas)
    ++ o.requestBody.toList.flatMap (RefOr.schemas RequestBody.schemas)
    ++ o.responses.schemas (RefOr.schemas Response.schemas)

def PathItem.schemas (i : PathItem) : List SchemaRef :=
  i.parameters.flatMap (RefOr.schemas Parameter.schemas)
    ++ i.operations.flatMap fun entry => entry.2.schemas

def Components.carried (c : Components) : List SchemaRef :=
  c.parameters.schemas (RefOr.schemas Parameter.schemas)
    ++ c.requestBodies.schemas (RefOr.schemas RequestBody.schemas)
    ++ c.responses.schemas (RefOr.schemas Response.schemas)
    ++ c.headers.schemas (RefOr.schemas Header.schemas)

def Document.schemas (d : Document) : List SchemaRef :=
  d.paths.schemas PathItem.schemas ++ d.webhooks.schemas PathItem.schemas
    ++ d.parts.schemas.map (·.2)

/-- The schemas at all places of a document. -/
def Document.allSchemas (d : Document) : List SchemaRef := d.schemas ++ d.parts.carried

end Places

namespace Reference

variable {α : Type} {section_ path : String} {table : Table (RefOr α)} {a : α}

theorem mem_of_find (found : find section_ table path = .ok a) :
    ∃ key, (key, .inline a) ∈ table := by
  unfold find at found
  cases named : name section_ path with
  | error e => simp [named, bind, Except.bind] at found
  | ok key =>
    simp only [named, bind, Except.bind] at found
    split at found
    next b inline =>
      obtain ⟨entry, kept, same⟩ := Option.bind_eq_some_iff.mp inline
      cases entry with
      | ref p => simp [RefOr.inline?] at same
      | inline b' =>
        cases same
        cases found
        exact ⟨key, Table.mem_of_get? kept⟩
    next => contradiction

theorem mem_of_lookup? {β : Type} {table : Table β} {b : β}
    (found : lookup? section_ table path = some b) : ∃ key, (key, b) ∈ table := by
  unfold lookup? at found
  split at found
  next key named => exact ⟨key, Table.mem_of_get? found⟩
  next => contradiction

end Reference

/-! What the steps of a resolution can give. -/
namespace Resolve

section Yields

variable {ε α β : Type} {x : Except ε α} {f : α → Except ε β} {P : α → Prop} {Q : β → Prop}

def Yields (x : Except ε α) (P : α → Prop) : Prop := ∀ a, x = .ok a → P a

namespace Yields

theorem pure {a : α} (holds : P a) : Yields (Pure.pure a : Except ε α) P := by
  rintro b ⟨⟩
  exact holds

theorem bind (first : Yields x P) (rest : ∀ a, P a → Yields (f a) Q) : Yields (x >>= f) Q := by
  intro b made
  cases x with
  | error e => cases made
  | ok a => exact rest a (first a rfl) b made

theorem lift (y : Except ε α) (holds : Yields y P) : Yields (liftExcept y : Except ε α) P := by
  cases y with
  | error e => exact fun _ made => nomatch made
  | ok a => exact pure (holds a rfl)

theorem mapM {l : List α} (each : ∀ a ∈ l, Yields (f a) Q) :
    Yields (l.mapM f) fun bs => ∀ b ∈ bs, Q b := by
  induction l with
  | nil => exact pure fun b absent => absurd absent List.not_mem_nil
  | cons a rest ih =>
    rw [List.mapM_cons]
    refine bind (each a (by simp)) fun b first => ?_
    refine bind (ih fun a' member => each a' (by simp [member])) fun bs others => ?_
    exact pure (List.forall_mem_cons.mpr ⟨first, others⟩)

theorem table {t : Table α} (each : ∀ entry ∈ t, Yields (f entry.2) Q) :
    Yields (Table.traverse f t) fun u => ∀ entry ∈ u, Q entry.2 :=
  mapM (Q := fun entry : String × β => Q entry.2) fun entry member =>
    bind (each entry member) fun _ holds => pure holds

theorem option {o : Option α} (each : ∀ a ∈ o, Yields (f a) Q) :
    Yields (Option.visit f o) fun u => ∀ b ∈ u, Q b := by
  cases o with
  | none => exact pure fun b absent => nomatch absent
  | some a => exact bind (each a rfl) fun b holds => pure fun c same => Option.some.inj same ▸ holds

end Yields
end Yields

def Within (schemas : List SchemaRef) (P : SchemaRef → Prop) : Prop := ∀ s ∈ schemas, P s

section Within

variable {α : Type} {P : SchemaRef → Prop} {inside : α → List SchemaRef}

theorem within_append {l₁ l₂ : List SchemaRef} : Within (l₁ ++ l₂) P ↔ Within l₁ P ∧ Within l₂ P :=
  List.forall_mem_append

theorem within_flatMap {l : List α} : Within (l.flatMap inside) P ↔ ∀ a ∈ l, Within (inside a) P := by
  simp only [Within, List.mem_flatMap]
  exact ⟨fun all a member s found => all s ⟨a, member, found⟩,
    fun all s ⟨a, member, found⟩ => all a member s found⟩

theorem within_table {t : Table α} :
    Within (t.schemas inside) P ↔ ∀ entry ∈ t, Within (inside entry.2) P := within_flatMap

/-- Of the operations of a path item each one stands under a verb. -/
theorem within_operations {i : PathItem} {inside : Operation → List SchemaRef} :
    Within (i.operations.flatMap fun entry => inside entry.2) P ↔
      ∀ v, ∀ o ∈ i.operation? v, Within (inside o) P := by
  rw [within_flatMap]
  constructor
  · intro all v o found
    refine all (v, o) (List.mem_filterMap.mpr ⟨v, ?_, by simp [Option.mem_def.mp found]⟩)
    cases v <;> decide
  · rintro all ⟨v, o⟩ member
    obtain ⟨w, -, found⟩ := List.mem_filterMap.mp member
    obtain ⟨o', found, same⟩ := Option.map_eq_some_iff.mp found
    cases same
    exact all v o found

end Within

section Parts

variable {c : Components} {plain : SchemaRef → Except ReferenceError SchemaRef}
  {given kept : SchemaRef → Prop} (each : ∀ s, given s → Yields (plain s) kept)
include each

theorem schema_yields {o : Option SchemaRef} (inside : Within o.toList given) :
    Yields (Option.visit plain o) fun u => Within u.toList kept := by
  intro u made s member
  have held := Yields.option (fun s found => each s (inside s (by simpa using found))) u made
  exact held s (by simpa using member)

theorem mediaType_yields {t : MediaType} (inside : Within t.schemas given) :
    Yields (mediaType c plain t) fun u => Within u.schemas kept :=
  .bind (schema_yields each inside) fun _ held => .pure held

theorem parameter_yields {p : Parameter} (inside : Within p.schemas given) :
    Yields (parameter c plain p) fun u => Within u.schemas kept :=
  .bind (schema_yields each inside) fun _ held => .pure held

theorem headerSchema_yields {h : RefOr Header} (inside : Within (h.schemas Header.schemas) given) :
    Yields (headerSchema plain h) fun u => Within (u.schemas Header.schemas) kept := by
  cases h with
  | ref path => exact .pure fun s absent => absurd absent List.not_mem_nil
  | inline h => exact .bind (schema_yields each inside) fun _ held => .pure held

theorem content_yields {t : Table MediaType} (inside : Within (t.schemas MediaType.schemas) given) :
    Yields (Table.traverse (mediaType c plain) t) fun u => Within (u.schemas MediaType.schemas) kept := by
  intro u made
  rw [within_table] at inside ⊢
  exact Yields.table (fun entry member => mediaType_yields each (inside entry member)) u made

theorem body_yields {b : RequestBody} (inside : Within b.schemas given) :
    Yields (body c plain b) fun u => Within u.schemas kept :=
  .bind (content_yields each inside) fun _ held => .pure held

variable (carried : Within c.carried given)
include carried

theorem header_yields {h : RefOr Header} (inside : Within (h.schemas Header.schemas) given) :
    Yields (header c plain h) fun u => Within (u.schemas Header.schemas) kept := by
  cases h with
  | inline h => exact headerSchema_yields each inside
  | ref path =>
    simp only [header]
    cases found : Reference.lookup? "headers" c.headers path with
    | none => exact .pure fun s absent => absurd absent List.not_mem_nil
    | some target =>
      obtain ⟨key, member⟩ := Reference.mem_of_lookup? found
      exact headerSchema_yields each (within_table.mp (within_append.mp carried).2 _ member)

theorem parameterRef_yields {p : RefOr Parameter} (inside : Within (p.schemas Parameter.schemas) given) :
    Yields (parameterRef c plain p) fun u => Within (u.schemas Parameter.schemas) kept := by
  cases p with
  | inline p => exact .bind (parameter_yields each inside) fun _ held => .pure held
  | ref path =>
    refine .bind (P := fun target => Within target.schemas given) (.lift _ fun target found => ?_)
      fun target known => .bind (parameter_yields each known) fun _ held => .pure held
    obtain ⟨key, member⟩ := Reference.mem_of_find found
    exact within_table.mp (within_append.mp (within_append.mp (within_append.mp carried).1).1).1 _ member

theorem bodyRef_yields {b : RefOr RequestBody} (inside : Within (b.schemas RequestBody.schemas) given) :
    Yields (bodyRef c plain b) fun u => Within (u.schemas RequestBody.schemas) kept := by
  cases b with
  | inline b => exact .bind (body_yields each inside) fun _ held => .pure held
  | ref path =>
    refine .bind (P := fun target => Within target.schemas given) (.lift _ fun target found => ?_)
      fun target known => .bind (body_yields each known) fun _ held => .pure held
    obtain ⟨key, member⟩ := Reference.mem_of_find found
    exact within_table.mp (within_append.mp (within_append.mp (within_append.mp carried).1).1).2 _ member

theorem response_yields {r : Response} (inside : Within r.schemas given) :
    Yields (response c plain r) fun u => Within u.schemas kept := by
  obtain ⟨content, headers⟩ := within_append.mp inside
  refine .bind (content_yields each content) fun _ first => ?_
  refine .bind (.table fun entry member =>
    header_yields each carried (within_table.mp headers entry member)) fun _ second => ?_
  exact .pure (within_append.mpr ⟨first, within_table.mpr second⟩)

theorem responseRef_yields {r : RefOr Response} (inside : Within (r.schemas Response.schemas) given) :
    Yields (responseRef c plain r) fun u => Within (u.schemas Response.schemas) kept := by
  cases r with
  | inline r => exact .bind (response_yields each carried inside) fun _ held => .pure held
  | ref path =>
    refine .bind (P := fun target => Within target.schemas given) (.lift _ fun target found => ?_)
      fun target known => .bind (response_yields each carried known) fun _ held => .pure held
    obtain ⟨key, member⟩ := Reference.mem_of_find found
    exact within_table.mp (within_append.mp (within_append.mp carried).1).2 _ member

theorem parameters_yields {l : List (RefOr Parameter)}
    (inside : Within (l.flatMap (RefOr.schemas Parameter.schemas)) given) :
    Yields (l.mapM (parameterRef c plain)) fun u =>
      Within (u.flatMap (RefOr.schemas Parameter.schemas)) kept := by
  intro u made
  rw [within_flatMap] at inside ⊢
  exact Yields.mapM (fun p member => parameterRef_yields each carried (inside p member)) u made

theorem operation_yields {o : Operation} (inside : Within o.schemas given) :
    Yields (operation c plain o) fun u => Within u.schemas kept := by
  obtain ⟨inside, responses⟩ := within_append.mp inside
  obtain ⟨parameters, body⟩ := within_append.mp inside
  rw [within_flatMap] at body
  refine .bind (parameters_yields each carried parameters) fun _ first => ?_
  refine .bind (.option fun b found =>
    bodyRef_yields each carried (body b (by simpa using found))) fun _ second => ?_
  refine .bind (.table fun entry member =>
    responseRef_yields each carried (within_table.mp responses entry member)) fun _ third => ?_
  refine .pure (within_append.mpr ⟨within_append.mpr ⟨first, ?_⟩, within_table.mpr third⟩)
  exact within_flatMap.mpr fun b member => second b (by simpa using member)

theorem pathItem_yields {i : PathItem} (inside : Within i.schemas given) :
    Yields (pathItem c plain i) fun u => Within u.schemas kept := by
  obtain ⟨parameters, operations⟩ := within_append.mp inside
  rw [within_operations] at operations
  have verb (v : Verb) : Yields (Option.visit (operation c plain) (i.operation? v))
      fun u => ∀ o ∈ u, Within o.schemas kept :=
    .option fun o found => operation_yields each carried (operations v o found)
  refine .bind (parameters_yields each carried parameters) fun _ first => ?_
  refine .bind (verb .get) fun _ get => .bind (verb .put) fun _ put => .bind (verb .post) fun _ post => ?_
  refine .bind (verb .delete) fun _ delete => .bind (verb .options) fun _ options => ?_
  refine .bind (verb .head) fun _ head => .bind (verb .patch) fun _ patch => ?_
  refine .bind (verb .trace) fun _ trace => .pure (within_append.mpr ⟨first, ?_⟩)
  refine within_operations.mpr fun v => ?_
  cases v <;> assumption

theorem document_yields {d : Document} (inside : Within d.schemas given) :
    Yields (document c plain d) fun u => Within u.schemas kept := by
  obtain ⟨inside, components⟩ := within_append.mp inside
  obtain ⟨paths, webhooks⟩ := within_append.mp inside
  refine .bind (.table fun entry member =>
    pathItem_yields each carried (within_table.mp paths entry member)) fun _ first => ?_
  refine .bind (.table fun entry member =>
    pathItem_yields each carried (within_table.mp webhooks entry member)) fun _ second => ?_
  have front := within_append.mpr ⟨within_table.mpr first, within_table.mpr second⟩
  refine .bind (P := fun u => Within ((u.getD {}).schemas.map (·.2)) kept) ?_
    fun u third => .pure (within_append.mpr ⟨front, third⟩)
  cases found : d.components with
  | none => exact .pure fun s absent => absurd absent List.not_mem_nil
  | some own =>
    refine .bind (P := fun u => Within (u.schemas.map (·.2)) kept) ?_ fun _ held => .pure held
    refine .bind (.table fun entry member => each entry.2 (components _ ?_)) fun _ third => .pure ?_
    · simpa [Document.parts, found] using ⟨entry.1, member⟩
    · rintro s member
      obtain ⟨entry, inside, rfl⟩ := List.mem_map.mp member
      exact third entry inside

end Parts
end Resolve

/-- Each schema of a resolved document is the expansion of one that stood in the document. -/
theorem Document.schemas_of_resolve {d r : Document} (resolved : d.resolve = .ok r) :
    ∀ s ∈ r.schemas, ∃ given ∈ d.allSchemas, s = SchemaRef.expand d.parts.schemas [] given := by
  have each (s : SchemaRef) (member : s ∈ d.allSchemas) :
      Resolve.Yields (Except.ok (SchemaRef.expand d.parts.schemas [] s) : Except ReferenceError SchemaRef)
        fun t => ∃ given ∈ d.allSchemas, t = SchemaRef.expand d.parts.schemas [] given :=
    .pure ⟨s, member, rfl⟩
  rw [d.resolve_eq] at resolved
  refine Resolve.document_yields each ?_ ?_ r resolved
  · exact fun s member => List.mem_append_right _ member
  · exact fun s member => List.mem_append_left _ member

end ApiAtlas
