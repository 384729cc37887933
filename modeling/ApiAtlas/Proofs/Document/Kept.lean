import ApiAtlas.Proofs.Document.Places
import Mathlib.Data.List.Forall2
import Mathlib.Data.Option.Defs

/-! What resolution leaves as it is. Paths keep their order and their verbs; an operation keeps all but its
parameters, its body and its responses. A parameter or body becomes the definition that stands in its place,
or that its reference points to, of which nothing changes but the schemas and examples inside. -/
namespace ApiAtlas

def RefOr.definition? {α : Type} (section_ : String) (table : Table (RefOr α)) : RefOr α → Option α
  | .ref path => (Reference.find section_ table path).toOption
  | .inline a => some a

namespace Components

variable (c : Components)

def parameter? (p : RefOr Parameter) : Option Parameter := p.definition? "parameters" c.parameters

def body? (b : RefOr RequestBody) : Option RequestBody := b.definition? "requestBodies" c.requestBodies

end Components

def Parameter.Kept (c : Components) (given kept : RefOr Parameter) : Prop :=
  ∃ p schema examples, c.parameter? given = some p ∧ kept = .inline { p with schema, examples }

def RequestBody.Kept (c : Components) (given kept : RefOr RequestBody) : Prop :=
  ∃ b content, c.body? given = some b ∧ kept = .inline { b with content }

structure Operation.Kept (c : Components) (given kept : Operation) : Prop where
  parameters : List.Forall₂ (Parameter.Kept c) given.parameters kept.parameters
  requestBody : Option.Rel (RequestBody.Kept c) given.requestBody kept.requestBody
  rest : kept = { given with
    parameters := kept.parameters, requestBody := kept.requestBody, responses := kept.responses }

structure PathItem.Kept (c : Components) (given kept : PathItem) : Prop where
  parameters : List.Forall₂ (Parameter.Kept c) given.parameters kept.parameters
  operation : ∀ v, Option.Rel (Operation.Kept c) (given.operation? v) (kept.operation? v)

/-- The same verbs are declared. -/
theorem PathItem.Kept.isSome_operation {c : Components} {given kept : PathItem}
    (same : given.Kept c kept) (v : Verb) :
    (kept.operation? v).isSome = (given.operation? v).isSome := by
  have operations := same.operation v
  generalize given.operation? v = o, kept.operation? v = o' at operations ⊢
  cases operations <;> rfl

/-- An operation that is kept was given. -/
theorem PathItem.Kept.exists_operation {c : Components} {given kept : PathItem} {v : Verb}
    {o : Operation} (same : given.Kept c kept) (declared : kept.operation? v = some o) :
    ∃ o', given.operation? v = some o' ∧ o'.Kept c o := by
  have operations := same.operation v
  rw [declared] at operations
  generalize given.operation? v = o' at operations ⊢
  cases operations with
  | some same => exact ⟨_, rfl, same⟩

def Document.PathsKept (c : Components) (given kept : Document) : Prop :=
  List.Forall₂ (fun p q => p.1 = q.1 ∧ PathItem.Kept c p.2 q.2) given.paths kept.paths

theorem Document.PathsKept.exists_given {c : Components} {given kept : Document} {path : String}
    {item : PathItem} (same : given.PathsKept c kept) (member : (path, item) ∈ kept.paths) :
    ∃ i, (path, i) ∈ given.paths ∧ i.Kept c item := by
  unfold PathsKept at same
  generalize given.paths = paths, kept.paths = paths' at same member ⊢
  induction same with
  | nil => contradiction
  | @cons p q _ _ entry _ ih =>
    rcases List.mem_cons.mp member with here | later
    · subst here
      obtain ⟨rfl, kept⟩ := entry
      exact ⟨p.2, List.mem_cons_self, kept⟩
    · obtain ⟨i, inside, kept⟩ := ih later
      exact ⟨i, .tail _ inside, kept⟩

namespace Resolve

namespace Yields

variable {ε α β : Type} {f : α → Except ε β} {R : α → β → Prop}

theorem each_of (each : ∀ a, Yields (f a) (R a)) (l : List α) : Yields (l.mapM f) (List.Forall₂ R l) := by
  induction l with
  | nil => exact pure .nil
  | cons a rest ih =>
    rw [List.mapM_cons]
    refine bind (each a) fun b first => ?_
    refine bind ih fun bs others => ?_
    exact pure (.cons first others)

theorem entry_of (each : ∀ a, Yields (f a) (R a)) (t : Table α) :
    Yields (Table.traverse f t) (List.Forall₂ (fun p q => p.1 = q.1 ∧ R p.2 q.2) t) := by
  refine each_of (R := fun (p : String × α) (q : String × β) => p.1 = q.1 ∧ R p.2 q.2) (fun p => ?_) t
  exact bind (each p.2) fun _ holds => pure ⟨rfl, holds⟩

theorem value_of (each : ∀ a, Yields (f a) (R a)) (o : Option α) :
    Yields (Option.visit f o) (Option.Rel R o) := by
  cases o with
  | none => exact pure .none
  | some a => exact bind (each a) fun _ holds => pure (.some holds)

theorem any (x : Except ε α) : Yields x fun _ => True := fun _ _ => trivial

/-- A look-up that is lifted gives what it gives. -/
theorem lifted (x : Except ε α) : Yields (liftExcept x : Except ε α) fun a => x.toOption = some a :=
  lift x fun a found => by simp [found, Except.toOption]

end Yields

variable (c : Components) (plain : SchemaRef → Except ReferenceError SchemaRef)

theorem parameter_kept (p : Parameter) :
    Yields (parameter c plain p) fun q => ∃ schema examples, q = { p with schema, examples } :=
  .bind (.any _) fun schema _ => .pure ⟨schema, _, rfl⟩

theorem parameterRef_kept (p : RefOr Parameter) :
    Yields (parameterRef c plain p) (Parameter.Kept c p) := by
  cases p with
  | ref path =>
    refine .bind (.lifted _) fun p found => .bind (parameter_kept c plain p) ?_
    rintro _ ⟨schema, examples, rfl⟩
    exact .pure ⟨p, schema, examples, found, rfl⟩
  | inline p =>
    refine .bind (parameter_kept c plain p) ?_
    rintro _ ⟨schema, examples, rfl⟩
    exact .pure ⟨p, schema, examples, rfl, rfl⟩

theorem body_kept (b : RequestBody) :
    Yields (body c plain b) fun k => ∃ content, k = { b with content } :=
  .bind (.any _) fun content _ => .pure ⟨content, rfl⟩

theorem bodyRef_kept (b : RefOr RequestBody) :
    Yields (bodyRef c plain b) (RequestBody.Kept c b) := by
  cases b with
  | ref path =>
    refine .bind (.lifted _) fun b found => .bind (body_kept c plain b) ?_
    rintro _ ⟨content, rfl⟩
    exact .pure ⟨b, content, found, rfl⟩
  | inline b =>
    refine .bind (body_kept c plain b) ?_
    rintro _ ⟨content, rfl⟩
    exact .pure ⟨b, content, rfl, rfl⟩

theorem operation_kept (o : Operation) : Yields (operation c plain o) (Operation.Kept c o) := by
  refine .bind (.each_of (parameterRef_kept c plain) _) fun _ parameters => ?_
  refine .bind (.value_of (bodyRef_kept c plain) _) fun _ requestBody => ?_
  exact .bind (.any _) fun _ _ => .pure ⟨parameters, requestBody, rfl⟩

theorem pathItem_kept (i : PathItem) : Yields (pathItem c plain i) (PathItem.Kept c i) := by
  have verb (v : Verb) : Yields (Option.visit (operation c plain) (i.operation? v))
      (Option.Rel (Operation.Kept c) (i.operation? v)) := .value_of (operation_kept c plain) _
  refine .bind (.each_of (parameterRef_kept c plain) _) fun _ parameters => ?_
  refine .bind (verb .get) fun _ get => .bind (verb .put) fun _ put => .bind (verb .post) fun _ post => ?_
  refine .bind (verb .delete) fun _ delete => .bind (verb .options) fun _ options => ?_
  refine .bind (verb .head) fun _ head => .bind (verb .patch) fun _ patch => ?_
  refine .bind (verb .trace) fun _ trace => .pure ⟨parameters, fun v => ?_⟩
  cases v <;> assumption

theorem document_kept (d : Document) : Yields (document c plain d) (Document.PathsKept c d) := by
  refine .bind (.entry_of (pathItem_kept c plain) _) fun _ paths => ?_
  exact .bind (.any _) fun _ _ => .bind (.any _) fun _ _ => .pure paths

end Resolve

theorem Document.pathsKept_of_resolve {d r : Document} (resolved : d.resolve = .ok r) :
    d.PathsKept d.parts r := by
  rw [d.resolve_eq] at resolved
  exact Resolve.document_kept _ _ d r resolved

end ApiAtlas
