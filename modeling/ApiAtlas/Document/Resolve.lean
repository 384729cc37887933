import ApiAtlas.Document.Reference

/-!
Resolution: a document with the components that it refers to put in the place of the references.
References of parameters, bodies and responses must point to a component defined in place. A schema
reference that leads back to itself, or nowhere, stays a reference; so does one of a header or an
example that leads nowhere. What a reference resolves to is kept for later uses (`Memo`), unless a
cycle was cut on the way, because where a cycle is cut depends on where it was entered.
-/
namespace ApiAtlas

namespace SchemaRef

/-- The schema that a path points to. -/
def target? (schemas : Table SchemaRef) (path : String) : Option SchemaRef :=
  Reference.lookup? "schemas" schemas path

/-- The number of components to which none of some references leads. -/
def unopened (schemas : Table SchemaRef) (path : List String) : Nat :=
  schemas.countP fun (key, _) => !path.any (Reference.leadsTo "schemas" · key)

/-- A reference that is not being expanded leads to a component to which none of those that are leads. -/
theorem exists_unopened {schemas : Table SchemaRef} {path : List String} {p : String}
    {target : SchemaRef} (fresh : p ∉ path) (found : target? schemas p = some target) :
    ∃ before key after, schemas = before ++ (key, target) :: after ∧
      Reference.leadsTo "schemas" p key = true ∧ path.any (Reference.leadsTo "schemas" · key) = false := by
  unfold target? Reference.lookup? at found
  split at found
  next key named =>
    obtain ⟨before, after, whole, -⟩ := List.lookup_eq_some_iff.mp found
    refine ⟨before, key, after, whole, Reference.leadsTo_iff.mpr named, ?_⟩
    rw [List.any_eq_false]
    intro q member leads
    have same := Reference.name_injective named (Reference.leadsTo_iff.mp leads)
    exact fresh (same ▸ member)
  next => simp at found

theorem unopened_lt {schemas : Table SchemaRef} {path : List String} {p : String}
    {target : SchemaRef} (fresh : p ∉ path) (found : target? schemas p = some target) :
    unopened schemas (p :: path) < unopened schemas path := by
  obtain ⟨before, key, after, whole, leads, unseen⟩ := exists_unopened fresh found
  have fewer (part : Table SchemaRef) : unopened part (p :: path) ≤ unopened part path :=
    List.countP_mono_left fun entry _ closed => by simp_all
  rw [whole]
  have hb := fewer before
  have ha := fewer after
  simp only [unopened, List.countP_append, List.countP_cons, List.any_cons, leads, unseen,
    Bool.true_or, Bool.not_true, Bool.not_false, Bool.false_eq_true, if_false, if_true] at hb ha ⊢
  omega

/-- Every reference in its place. `path` lists the references being expanded; one of them, or one
that points nowhere, stays. Each expansion opens one more component. -/
def expand (schemas : Table SchemaRef) (path : List String) (s : SchemaRef) : SchemaRef :=
  Id.run <| s.traverse fun p =>
    if _ : p ∈ path then .ref p
    else match _ : target? schemas p with
      | some target => expand schemas (p :: path) target
      | none => .ref p
termination_by unopened schemas path
decreasing_by exact unopened_lt ‹_› ‹_›

/-- What is known from earlier expansions. -/
structure Memo where
  done : Table SchemaRef := []
  /-- The number of cycles cut so far. -/
  cuts : Nat := 0

/-- As `expand`, with every complete expansion made once. -/
def resolveAt (schemas : Table SchemaRef) (path : List String) (s : SchemaRef) :
    StateM Memo SchemaRef :=
  s.traverse fun p => do
    let memo ← get
    match memo.done.get? p with
    | some found => return found
    | none =>
      if _ : p ∈ path then
        set { memo with cuts := memo.cuts + 1 }
        return .ref p
      else match _ : target? schemas p with
        | none => return .ref p
        | some target => do
          let result ← resolveAt schemas (p :: path) target
          modify fun after =>
            if after.cuts = memo.cuts then { after with done := after.done.put p result } else after
          return result
termination_by unopened schemas path
decreasing_by exact unopened_lt ‹_› ‹_›

/-- A schema with its references resolved. -/
def resolve (schemas : Table SchemaRef) (s : SchemaRef) : StateM Memo SchemaRef :=
  resolveAt schemas [] s

end SchemaRef

def Table.traverse {m : Type → Type} [Monad m] (visit : α → m β) (table : Table α) : m (Table β) :=
  table.mapM fun (k, a) => do return (k, ← visit a)

def Option.visit {m : Type → Type} [Monad m] (visit : α → m β) : Option α → m (Option β)
  | none => return none
  | some a => do return some (← visit a)

/-! Resolution of the parts of a document, given the components and how to resolve a schema. -/
namespace Resolve

/-- An example by reference becomes the entry it points to. -/
def examples (c : Components) (table : Table (RefOr Example)) : Table (RefOr Example) :=
  table.map fun (k, e) => match e with
    | .ref path => (k, (Reference.lookup? "examples" c.examples path).getD (.ref path))
    | .inline e => (k, .inline e)

section Parts

variable {m : Type → Type} [Monad m] [MonadExceptOf ReferenceError m]
variable (c : Components) (schema : SchemaRef → m SchemaRef)

def mediaType (t : MediaType) : m MediaType := do
  return { t with schema := ← Option.visit schema t.schema, examples := examples c t.examples }

def parameter (p : Parameter) : m Parameter := do
  return { p with schema := ← Option.visit schema p.schema, examples := examples c p.examples }

def headerSchema : RefOr Header → m (RefOr Header)
  | .ref path => return .ref path
  | .inline h => do return .inline { h with schema := ← Option.visit schema h.schema }

def header : RefOr Header → m (RefOr Header)
  | .ref path =>
    match Reference.lookup? "headers" c.headers path with
    | some h => headerSchema schema h
    | none => return .ref path
  | h => headerSchema schema h

def parameterRef : RefOr Parameter → m (RefOr Parameter)
  | .ref path => do
    let p ← liftExcept (Reference.find "parameters" c.parameters path)
    return .inline (← parameter c schema p)
  | .inline p => do return .inline (← parameter c schema p)

def body (b : RequestBody) : m RequestBody := do
  return { b with content := ← Table.traverse (mediaType c schema) b.content }

def bodyRef : RefOr RequestBody → m (RefOr RequestBody)
  | .ref path => do
    let b ← liftExcept (Reference.find "requestBodies" c.requestBodies path)
    return .inline (← body c schema b)
  | .inline b => do return .inline (← body c schema b)

def response (r : Response) : m Response := do
  let content ← Table.traverse (mediaType c schema) r.content
  return { r with content, headers := ← Table.traverse (header c schema) r.headers }

def responseRef : RefOr Response → m (RefOr Response)
  | .ref path => do
    let r ← liftExcept (Reference.find "responses" c.responses path)
    return .inline (← response c schema r)
  | .inline r => do return .inline (← response c schema r)

def operation (o : Operation) : m Operation := do
  let parameters ← o.parameters.mapM (parameterRef c schema)
  let requestBody ← Option.visit (bodyRef c schema) o.requestBody
  return { o with parameters, requestBody, responses := ← Table.traverse (responseRef c schema) o.responses }

/-- The verbs are resolved in the order of `Verb.all`. -/
def pathItem (i : PathItem) : m PathItem := do
  let parameters ← i.parameters.mapM (parameterRef c schema)
  let verb := Option.visit (operation c schema)
  return { i with
    parameters
    get := ← verb i.get
    put := ← verb i.put
    post := ← verb i.post
    delete := ← verb i.delete
    options := ← verb i.options
    head := ← verb i.head
    patch := ← verb i.patch
    trace := ← verb i.trace }

/-- Paths first, then webhooks, then the schemas among the components. -/
def document (d : Document) : m Document := do
  let paths ← Table.traverse (pathItem c schema) d.paths
  let webhooks ← Table.traverse (pathItem c schema) d.webhooks
  let components ← Option.visit
    (fun c => do return { c with schemas := ← Table.traverse schema c.schemas }) d.components
  return { d with paths, webhooks, components }

end Parts
end Resolve

namespace Document

/-- The components of a document; none are no different from empty ones. -/
def parts (d : Document) : Components := d.components.getD {}

def resolve (d : Document) : Except ReferenceError Document :=
  let schema (s : SchemaRef) : StateT SchemaRef.Memo (Except ReferenceError) SchemaRef :=
    fun memo => .ok (s.resolve d.parts.schemas memo)
  (Resolve.document d.parts schema d).run' {}

end Document
end ApiAtlas
