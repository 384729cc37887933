import ApiAtlas.Proofs.Document.Kept

/-! Resolution as a whole. References to parameters, bodies and responses are pointers; they are looked up
in the order in which they stand in a document, and the first broken one is the error. Without a broken one
the result is the document with every definition inlined. -/
namespace ApiAtlas

inductive Pointer.Kind where
  | parameter | body | response
deriving DecidableEq, Repr

def Pointer.Kind.sectionName : Pointer.Kind → String
  | .parameter => "parameters"
  | .body => "requestBodies"
  | .response => "responses"

structure Pointer where
  kind : Pointer.Kind
  path : String
deriving DecidableEq, Repr

/-- Whether a definition of a kind stands in place under a name. -/
def Components.defines (c : Components) (key : String) : Pointer.Kind → Bool
  | .parameter => ((c.parameters.get? key).bind RefOr.inline?).isSome
  | .body => ((c.requestBodies.get? key).bind RefOr.inline?).isSome
  | .response => ((c.responses.get? key).bind RefOr.inline?).isSome

namespace Pointer

def ofRef {α : Type} (kind : Kind) : RefOr α → List Pointer
  | .ref path => [⟨kind, path⟩]
  | .inline _ => []

/-- A pointer names a definition in its own section. -/
def Intact (c : Components) (p : Pointer) : Prop :=
  ∃ key, Reference.split? p.path = some (p.kind.sectionName, key) ∧ c.defines key p.kind = true

inductive Broken (c : Components) (p : Pointer) : ReferenceError → Prop
  | malformed : Reference.split? p.path = none → Broken c p (.malformed p.path)
  | misplaced {found key} : Reference.split? p.path = some (found, key) → found ≠ p.kind.sectionName →
    Broken c p (.wrongSection p.kind.sectionName found p.path)
  | missing {key} : Reference.split? p.path = some (p.kind.sectionName, key) → c.defines key p.kind = false →
    Broken c p (.missing p.path)

def fault? (c : Components) (p : Pointer) : Option ReferenceError :=
  match Reference.name p.kind.sectionName p.path with
  | .error e => some e
  | .ok key => if c.defines key p.kind then none else some (.missing p.path)

variable {c : Components} {p : Pointer} {e : ReferenceError}

/-- A look-up in the section of the pointer fails with its error. -/
theorem fault?_eq_of_find {α : Type} {kind : Kind} {table : Table (RefOr α)}
    (defines : ∀ key, c.defines key kind = ((table.get? key).bind RefOr.inline?).isSome) (path : String) :
    fault? c ⟨kind, path⟩ = match Reference.find kind.sectionName table path with
      | .ok _ => none
      | .error e => some e := by
  simp only [fault?, Reference.find, defines, bind, Except.bind]
  cases Reference.name kind.sectionName path with
  | error e => rfl
  | ok key =>
    dsimp only
    cases (table.get? key).bind RefOr.inline? <;> rfl

theorem Intact.fault? (intact : Intact c p) : fault? c p = none := by
  obtain ⟨key, named, defined⟩ := intact
  simp [Pointer.fault?, Reference.name, named, defined]

theorem Broken.fault? (broken : Broken c p e) : fault? c p = some e := by
  cases broken with
  | malformed bad => simp [Pointer.fault?, Reference.name, bad]
  | misplaced named other => simp [Pointer.fault?, Reference.name, named, other]
  | missing named absent => simp [Pointer.fault?, Reference.name, named, absent]

theorem Intact.not_broken (intact : Intact c p) : ¬ Broken c p e := fun broken =>
  Option.some_ne_none e (broken.fault?.symm.trans intact.fault?)

theorem Broken.unique {e' : ReferenceError} (broken : Broken c p e) (other : Broken c p e') : e = e' :=
  Option.some.inj (broken.fault?.symm.trans other.fault?)

theorem intact_or_broken (c : Components) (p : Pointer) : Intact c p ∨ ∃ e, Broken c p e := by
  cases named : Reference.split? p.path with
  | none => exact .inr ⟨_, .malformed named⟩
  | some whole =>
    obtain ⟨found, key⟩ := whole
    by_cases same : found = p.kind.sectionName
    · subst same
      cases defined : c.defines key p.kind with
      | false => exact .inr ⟨_, .missing named defined⟩
      | true => exact .inl ⟨key, named, defined⟩
    · exact .inr ⟨_, .misplaced named same⟩

theorem fault?_eq_none_iff : fault? c p = none ↔ Intact c p := by
  refine ⟨fun sound => ?_, Intact.fault?⟩
  rcases intact_or_broken c p with intact | ⟨e, broken⟩
  · exact intact
  · exact absurd (broken.fault?.symm.trans sound) (Option.some_ne_none e)

theorem fault?_eq_some_iff : fault? c p = some e ↔ Broken c p e := by
  refine ⟨fun faulty => ?_, Broken.fault?⟩
  rcases intact_or_broken c p with intact | ⟨e', broken⟩
  · exact absurd (faulty.symm.trans intact.fault?) (Option.some_ne_none e)
  · obtain rfl := Option.some.inj (broken.fault?.symm.trans faulty)
    exact broken

end Pointer

/-! The pointers of a document, in the order in which they are looked up. -/
section Pointers

def Operation.pointers (o : Operation) : List Pointer :=
  o.parameters.flatMap (Pointer.ofRef .parameter)
    ++ o.requestBody.toList.flatMap (Pointer.ofRef .body)
    ++ o.responses.flatMap fun entry => Pointer.ofRef .response entry.2

def PathItem.pointers (i : PathItem) : List Pointer :=
  i.parameters.flatMap (Pointer.ofRef .parameter) ++ i.operations.flatMap fun entry => entry.2.pointers

/-- The operations are looked through verb by verb. -/
theorem PathItem.pointers_eq (i : PathItem) : i.pointers =
    i.parameters.flatMap (Pointer.ofRef .parameter)
      ++ Verb.all.flatMap fun v => (i.operation? v).toList.flatMap Operation.pointers := by
  have one (v : Verb) : (((i.operation? v).map fun o => (v, o)).toList.flatMap fun entry => entry.2.pointers) =
      (i.operation? v).toList.flatMap Operation.pointers := by
    cases i.operation? v <;> rfl
  simp only [pointers, operations, List.filterMap_eq_flatMap_toList, List.flatMap_assoc, one]

def Document.pointers (d : Document) : List Pointer :=
  (d.paths.flatMap fun entry => entry.2.pointers) ++ d.webhooks.flatMap fun entry => entry.2.pointers

end Pointers

/-! The parts of a document with what references lead to in the place of the references. A reference that
leads nowhere stays. -/
namespace Inlined

section Parts

variable {α : Type} (c : Components) (g : SchemaRef → SchemaRef)

def definition (section_ : String) (table : Table (RefOr α)) (fill : α → α) (r : RefOr α) : RefOr α :=
  match r.definition? section_ table with
  | some a => .inline (fill a)
  | none => r

def mediaType (t : MediaType) : MediaType :=
  { t with schema := t.schema.map g, examples := Resolve.examples c t.examples }

def parameter (p : Parameter) : Parameter :=
  { p with schema := p.schema.map g, examples := Resolve.examples c p.examples }

def headerSchema : RefOr Header → RefOr Header
  | .ref path => .ref path
  | .inline h => .inline { h with schema := h.schema.map g }

/-- The entry that takes the place of a header may be a reference again, and stays one. -/
def header : RefOr Header → RefOr Header
  | .ref path => headerSchema g ((Reference.lookup? "headers" c.headers path).getD (.ref path))
  | h => headerSchema g h

def body (b : RequestBody) : RequestBody :=
  { b with content := b.content.map fun p => (p.1, mediaType c g p.2) }

def response (r : Response) : Response :=
  { r with
    content := r.content.map fun p => (p.1, mediaType c g p.2)
    headers := r.headers.map fun p => (p.1, header c g p.2) }

def parameterRef : RefOr Parameter → RefOr Parameter :=
  definition "parameters" c.parameters (parameter c g)

def bodyRef : RefOr RequestBody → RefOr RequestBody :=
  definition "requestBodies" c.requestBodies (body c g)

def responseRef : RefOr Response → RefOr Response :=
  definition "responses" c.responses (response c g)

def operation (o : Operation) : Operation :=
  { o with
    parameters := o.parameters.map (parameterRef c g)
    requestBody := o.requestBody.map (bodyRef c g)
    responses := o.responses.map fun p => (p.1, responseRef c g p.2) }

def pathItem (i : PathItem) : PathItem :=
  { i with
    parameters := i.parameters.map (parameterRef c g)
    get := i.get.map (operation c g)
    put := i.put.map (operation c g)
    post := i.post.map (operation c g)
    delete := i.delete.map (operation c g)
    options := i.options.map (operation c g)
    head := i.head.map (operation c g)
    patch := i.patch.map (operation c g)
    trace := i.trace.map (operation c g) }

def document (d : Document) : Document :=
  { d with
    paths := d.paths.map fun p => (p.1, pathItem c g p.2)
    webhooks := d.webhooks.map fun p => (p.1, pathItem c g p.2)
    components := d.components.map fun own =>
      { own with schemas := own.schemas.map fun p => (p.1, g p.2) } }

end Parts
end Inlined

namespace Resolve

/-- A value, unless one of some pointers is broken; then the error of the first broken one. -/
def guarded {α : Type} (c : Components) (ps : List Pointer) (a : α) : Except ReferenceError α :=
  match ps.findSome? (Pointer.fault? c) with
  | none => .ok a
  | some e => .error e

variable {c : Components}

section Guarded

variable {α β : Type} {ps qs : List Pointer} {x : Except ReferenceError α} {f : α → Except ReferenceError β}
  {g : α → β} {a : α} {b : β}

theorem guarded_bind (first : x = guarded c ps a) (rest : f a = guarded c qs b) :
    x >>= f = guarded c (ps ++ qs) b := by
  subst first
  unfold guarded at rest ⊢
  rw [List.findSome?_append]
  cases ps.findSome? (Pointer.fault? c) with
  | some e => rfl
  | none => simpa [bind, Except.bind] using rest

theorem guarded_map (first : x = guarded c ps a) : (do return g (← x)) = guarded c ps (g a) := by
  have last : (pure (g a) : Except ReferenceError β) = guarded c [] (g a) := rfl
  simpa using guarded_bind (f := fun a => pure (g a)) first last

section Each

variable {pointers : α → List Pointer} (each : ∀ a, f a = guarded c (pointers a) (g a))
include each

theorem guarded_mapM (l : List α) : l.mapM f = guarded c (l.flatMap pointers) (l.map g) := by
  induction l with
  | nil => rfl
  | cons a rest ih =>
    rw [List.mapM_cons]
    exact guarded_bind (each a) (guarded_map ih)

theorem guarded_table (t : Table α) :
    Table.traverse f t = guarded c (t.flatMap fun p => pointers p.2) (t.map fun p => (p.1, g p.2)) := by
  have entry (p : String × α) : (do return (p.1, ← f p.2)) = guarded c (pointers p.2) (p.1, g p.2) :=
    guarded_map (each p.2)
  exact guarded_mapM entry t

theorem guarded_option (o : Option α) :
    Option.visit f o = guarded c (o.toList.flatMap pointers) (o.map g) := by
  cases o with
  | none => rfl
  | some a => simpa [Option.visit] using guarded_map (each a)

end Each

/-! Parts that hold no pointers. -/
section Plain

variable (each : ∀ a, f a = guarded c [] (g a))
include each

theorem plain_table (t : Table α) : Table.traverse f t = guarded c [] (t.map fun p => (p.1, g p.2)) := by
  have whole := guarded_table each t
  rwa [List.flatMap_eq_nil_iff.mpr fun _ _ => rfl] at whole

theorem plain_option (o : Option α) : Option.visit f o = guarded c [] (o.map g) := by
  have whole := guarded_option each o
  rwa [List.flatMap_eq_nil_iff.mpr fun _ _ => rfl] at whole

end Plain
end Guarded

section Parts

/-- A reference is inlined as what its look-up gives. -/
theorem definition_inlined {α : Type} (kind : Pointer.Kind) {table : Table (RefOr α)} {path : String}
    {visit : α → Except ReferenceError α} {fill : α → α}
    (defines : ∀ key, c.defines key kind = ((table.get? key).bind RefOr.inline?).isSome)
    (filled : ∀ a, visit a = guarded c [] (fill a)) :
    (do return RefOr.inline (← visit
      (← liftExcept (Reference.find kind.sectionName table path)))) =
      guarded c [⟨kind, path⟩] (Inlined.definition kind.sectionName table fill (.ref path)) := by
  simp only [guarded, List.findSome?_singleton, Pointer.fault?_eq_of_find defines, Inlined.definition,
    RefOr.definition?]
  cases Reference.find kind.sectionName table path with
  | error e => rfl
  | ok a =>
    rw [liftExcept, pure_bind]
    exact guarded_map (filled a)

variable {schema : SchemaRef → Except ReferenceError SchemaRef} {g : SchemaRef → SchemaRef}
  (each : ∀ s, schema s = .ok (g s))
include each

theorem mediaType_inlined (t : MediaType) :
    mediaType c schema t = guarded c [] (Inlined.mediaType c g t) :=
  guarded_map (plain_option each t.schema)

theorem parameter_inlined (p : Parameter) :
    parameter c schema p = guarded c [] (Inlined.parameter c g p) :=
  guarded_map (plain_option each p.schema)

theorem headerSchema_inlined (h : RefOr Header) :
    headerSchema schema h = guarded c [] (Inlined.headerSchema g h) := by
  cases h with
  | ref path => rfl
  | inline h => exact guarded_map (plain_option each h.schema)

theorem header_inlined (h : RefOr Header) :
    header c schema h = guarded c [] (Inlined.header c g h) := by
  cases h with
  | inline h => exact headerSchema_inlined each (.inline h)
  | ref path =>
    simp only [header, Inlined.header]
    cases Reference.lookup? "headers" c.headers path with
    | none => rfl
    | some target => exact headerSchema_inlined each target

theorem content_inlined (t : Table MediaType) :
    Table.traverse (mediaType c schema) t = guarded c [] (t.map fun p => (p.1, Inlined.mediaType c g p.2)) :=
  plain_table (mediaType_inlined each) t

theorem body_inlined (b : RequestBody) : body c schema b = guarded c [] (Inlined.body c g b) :=
  guarded_map (content_inlined each b.content)

theorem response_inlined (r : Response) : response c schema r = guarded c [] (Inlined.response c g r) :=
  guarded_bind (content_inlined each r.content)
    (guarded_map (plain_table (header_inlined each) r.headers))

theorem parameterRef_inlined (p : RefOr Parameter) :
    parameterRef c schema p = guarded c (Pointer.ofRef .parameter p) (Inlined.parameterRef c g p) := by
  cases p with
  | ref path => exact definition_inlined .parameter (fun _ => rfl) (parameter_inlined each)
  | inline p => exact guarded_map (parameter_inlined each p)

theorem bodyRef_inlined (b : RefOr RequestBody) :
    bodyRef c schema b = guarded c (Pointer.ofRef .body b) (Inlined.bodyRef c g b) := by
  cases b with
  | ref path => exact definition_inlined .body (fun _ => rfl) (body_inlined each)
  | inline b => exact guarded_map (body_inlined each b)

theorem responseRef_inlined (r : RefOr Response) :
    responseRef c schema r = guarded c (Pointer.ofRef .response r) (Inlined.responseRef c g r) := by
  cases r with
  | ref path => exact definition_inlined .response (fun _ => rfl) (response_inlined each)
  | inline r => exact guarded_map (response_inlined each r)

theorem operation_inlined (o : Operation) :
    operation c schema o = guarded c o.pointers (Inlined.operation c g o) := by
  unfold Operation.pointers
  rw [List.append_assoc]
  refine guarded_bind (guarded_mapM (parameterRef_inlined each) _) ?_
  refine guarded_bind (guarded_option (bodyRef_inlined each) _) ?_
  exact guarded_map (guarded_table (responseRef_inlined each) _)

theorem pathItem_inlined (i : PathItem) :
    pathItem c schema i = guarded c i.pointers (Inlined.pathItem c g i) := by
  have verb (v : Verb) : Option.visit (operation c schema) (i.operation? v) =
      guarded c ((i.operation? v).toList.flatMap Operation.pointers)
        ((i.operation? v).map (Inlined.operation c g)) :=
    guarded_option (operation_inlined each) _
  rw [PathItem.pointers_eq]
  refine guarded_bind (guarded_mapM (parameterRef_inlined each) _) ?_
  refine guarded_bind (verb .get) <| guarded_bind (verb .put) <| ?_
  refine guarded_bind (verb .post) <| guarded_bind (verb .delete) <| ?_
  refine guarded_bind (verb .options) <| guarded_bind (verb .head) <| ?_
  exact guarded_bind (verb .patch) <| guarded_bind (verb .trace) rfl

theorem document_inlined (d : Document) :
    document c schema d = guarded c d.pointers (Inlined.document c g d) := by
  have items (t : Table PathItem) : Table.traverse (pathItem c schema) t =
      guarded c (t.flatMap fun p => p.2.pointers) (t.map fun p => (p.1, Inlined.pathItem c g p.2)) :=
    guarded_table (pathItem_inlined each) t
  have components (o : Option Components) :
      Option.visit (fun own => do return { own with schemas := ← Table.traverse schema own.schemas }) o =
        guarded c [] (o.map fun own => { own with schemas := own.schemas.map fun p => (p.1, g p.2) }) :=
    plain_option (fun own => guarded_map (plain_table each own.schemas)) o
  refine guarded_bind (items d.paths) ?_
  rw [← List.append_nil (d.webhooks.flatMap _)]
  exact guarded_bind (items d.webhooks) (guarded_map (components d.components))

end Parts
end Resolve

/-- A document is resolved as a whole: it fails with the first broken pointer, or everything is inlined. -/
theorem Document.resolve_eq_guarded (d : Document) : d.resolve =
    Resolve.guarded d.parts d.pointers (Inlined.document d.parts (SchemaRef.expand d.parts.schemas []) d) := by
  rw [d.resolve_eq]
  exact Resolve.document_inlined (fun _ => rfl) d

end ApiAtlas
