import ApiAtlas.Proofs.Document.Schema

/-! Resolutions compared. A resolution is the same program whatever the monad of its steps: if two ways to
resolve a schema are related by a relation that values satisfy and sequences keep, so are the resolutions of
whole schemas and documents. -/
namespace ApiAtlas

/-- A relation between the steps of two monads that values satisfy and sequences keep. -/
structure StepRelation (m n : Type → Type) [Monad m] [Monad n] where
  Rel {α : Type} : m α → n α → Prop
  pure {α : Type} (a : α) : Rel (pure a) (pure a)
  bind {α β : Type} {x : m α} {y : n α} {f : α → m β} {g : α → n β} :
    Rel x y → (∀ a, Rel (f a) (g a)) → Rel (x >>= f) (y >>= g)

namespace StepRelation

variable {m n : Type → Type} [Monad m] [Monad n] (R : StepRelation m n)

section Visits

variable {α β : Type} {f : α → m β} {g : α → n β}

theorem option {o : Option α} (each : ∀ a ∈ o, R.Rel (f a) (g a)) :
    R.Rel (Option.visit f o) (Option.visit g o) := by
  cases o with
  | none => exact R.pure none
  | some a => exact R.bind (each a rfl) fun _ => R.pure _

theorem additional {o : Option (AdditionalSpec α)} (each : ∀ a ∈ AdditionalSpec.toList o, R.Rel (f a) (g a)) :
    R.Rel (AdditionalSpec.visit f o) (AdditionalSpec.visit g o) := by
  rcases o with _ | b | a
  · exact R.pure _
  · exact R.pure _
  · exact R.bind (each a (by simp [AdditionalSpec.toList])) fun _ => R.pure _

variable [LawfulMonad m] [LawfulMonad n]

theorem mapM {l : List α} (each : ∀ a ∈ l, R.Rel (f a) (g a)) : R.Rel (l.mapM f) (l.mapM g) := by
  induction l with
  | nil => exact R.pure []
  | cons a rest ih =>
    rw [List.mapM_cons, List.mapM_cons]
    refine R.bind (each a (by simp)) fun b => R.bind (ih fun a' member => each a' (by simp [member])) fun bs => ?_
    exact R.pure (b :: bs)

theorem table {t : Table α} (each : ∀ entry ∈ t, R.Rel (f entry.2) (g entry.2)) :
    R.Rel (Table.traverse f t) (Table.traverse g t) :=
  R.mapM fun entry member => R.bind (each entry member) fun _ => R.pure _

theorem subschemas {parts : Subschemas α} (each : ∀ a ∈ parts.toList, R.Rel (f a) (g a)) :
    R.Rel (parts.visit f) (parts.visit g) := by
  simp only [Subschemas.mem_toList] at each
  refine R.bind (R.table fun entry member => each entry.2 (.inl ⟨entry.1, member⟩)) fun _ => ?_
  refine R.bind (R.option fun a member => each a (by tauto)) fun _ => ?_
  refine R.bind (R.mapM fun a member => each a (by tauto)) fun _ => ?_
  refine R.bind (R.mapM fun a member => each a (by tauto)) fun _ => ?_
  refine R.bind (R.mapM fun a member => each a (by tauto)) fun _ => ?_
  refine R.bind (R.option fun a member => each a (by tauto)) fun _ => ?_
  exact R.bind (R.additional fun a member => each a (by tauto)) fun _ => R.pure _

end Visits

section Parts

open Resolve

variable {c : Components} {schema : SchemaRef → m SchemaRef}
  {plain : SchemaRef → n SchemaRef} (each : ∀ s, R.Rel (schema s) (plain s))
include each

theorem mediaType (t : MediaType) : R.Rel (mediaType c schema t) (mediaType c plain t) :=
  R.bind (R.option fun s _ => each s) fun _ => R.pure _

theorem parameter (p : Parameter) : R.Rel (parameter c schema p) (parameter c plain p) :=
  R.bind (R.option fun s _ => each s) fun _ => R.pure _

theorem headerSchema (h : RefOr Header) : R.Rel (headerSchema schema h) (headerSchema plain h) := by
  cases h with
  | ref path => exact R.pure _
  | inline h => exact R.bind (R.option fun s _ => each s) fun _ => R.pure _

theorem header (h : RefOr Header) : R.Rel (header c schema h) (header c plain h) := by
  cases h with
  | ref path =>
    simp only [Resolve.header]
    cases Reference.lookup? "headers" c.headers path with
    | some h => exact R.headerSchema each h
    | none => exact R.pure _
  | inline h => exact R.headerSchema each (.inline h)

variable [LawfulMonad m] [LawfulMonad n]

theorem body (b : RequestBody) : R.Rel (body c schema b) (body c plain b) :=
  R.bind (R.table fun entry _ => R.mediaType each entry.2) fun _ => R.pure _

theorem response (r : Response) : R.Rel (response c schema r) (response c plain r) :=
  R.bind (R.table fun entry _ => R.mediaType each entry.2) fun _ =>
    R.bind (R.table fun entry _ => R.header each entry.2) fun _ => R.pure _

variable [MonadExceptOf ReferenceError m] [MonadExceptOf ReferenceError n]
  (lift : ∀ {α : Type} (x : Except ReferenceError α), R.Rel (liftExcept x) (liftExcept x))
include lift

omit [LawfulMonad m] [LawfulMonad n] in
theorem parameterRef (p : RefOr Parameter) : R.Rel (parameterRef c schema p) (parameterRef c plain p) := by
  cases p with
  | ref path => exact R.bind (lift _) fun p => R.bind (R.parameter each p) fun _ => R.pure _
  | inline p => exact R.bind (R.parameter each p) fun _ => R.pure _

theorem bodyRef (b : RefOr RequestBody) : R.Rel (bodyRef c schema b) (bodyRef c plain b) := by
  cases b with
  | ref path => exact R.bind (lift _) fun b => R.bind (R.body each b) fun _ => R.pure _
  | inline b => exact R.bind (R.body each b) fun _ => R.pure _

theorem responseRef (r : RefOr Response) : R.Rel (responseRef c schema r) (responseRef c plain r) := by
  cases r with
  | ref path => exact R.bind (lift _) fun r => R.bind (R.response each r) fun _ => R.pure _
  | inline r => exact R.bind (R.response each r) fun _ => R.pure _

theorem operation (o : Operation) : R.Rel (operation c schema o) (operation c plain o) :=
  R.bind (R.mapM fun p _ => R.parameterRef each lift p) fun _ =>
    R.bind (R.option fun b _ => R.bodyRef each lift b) fun _ =>
    R.bind (R.table fun entry _ => R.responseRef each lift entry.2) fun _ => R.pure _

theorem pathItem (i : PathItem) : R.Rel (pathItem c schema i) (pathItem c plain i) := by
  have verb (o : Option Operation) : R.Rel (Option.visit (Resolve.operation c schema) o)
      (Option.visit (Resolve.operation c plain) o) := R.option fun o _ => R.operation each lift o
  exact R.bind (R.mapM fun p _ => R.parameterRef each lift p) fun _ => R.bind (verb _) fun _ =>
    R.bind (verb _) fun _ => R.bind (verb _) fun _ => R.bind (verb _) fun _ => R.bind (verb _) fun _ =>
    R.bind (verb _) fun _ => R.bind (verb _) fun _ => R.bind (verb _) fun _ => R.pure _

theorem document (d : Document) : R.Rel (document c schema d) (document c plain d) := by
  refine R.bind (R.table fun entry _ => R.pathItem each lift entry.2) fun _ => ?_
  refine R.bind (R.table fun entry _ => R.pathItem each lift entry.2) fun _ => ?_
  refine R.bind (R.option fun own _ => ?_) fun _ => R.pure _
  exact R.bind (R.table fun entry _ => each entry.2) fun _ => R.pure _

end Parts
end StepRelation
end ApiAtlas
