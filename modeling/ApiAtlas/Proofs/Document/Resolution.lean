import ApiAtlas.Proofs.Document.Memo
import ApiAtlas.Proofs.Document.Related

/-! Resolution of documents. The memo is passed through every part of a document; a part is resolved as if
every schema in it were expanded on its own, with the same error if a component is missing. -/
namespace ApiAtlas

namespace Resolve

section Follows

variable {σ ε α β : Type} {inv : σ → Prop}

/-- From every state that satisfies an invariant, a step does what a step without state does. -/
def Follows (inv : σ → Prop) (x : StateT σ (Except ε) α) (y : Except ε α) : Prop :=
  ∀ s, inv s → match y with
    | .ok a => ∃ after, x s = .ok (a, after) ∧ inv after
    | .error e => x s = .error e

namespace Follows

variable {x : StateT σ (Except ε) α} {y : Except ε α} {f : α → StateT σ (Except ε) β} {g : α → Except ε β}

theorem pure (a : α) : Follows inv (Pure.pure a) (Pure.pure a : Except ε α) :=
  fun s kept => ⟨s, rfl, kept⟩

theorem bind (first : Follows inv x y) (rest : ∀ a, Follows inv (f a) (g a)) :
    Follows inv (x >>= f) (y >>= g) := by
  intro s kept
  have step := first s kept
  cases y with
  | error e =>
    change (x s >>= _) = _
    rw [step]
    rfl
  | ok a =>
    obtain ⟨after, made, kept⟩ := step
    have whole : (x >>= f) s = f a after := by
      change (x s >>= _) = _
      rw [made]
      rfl
    rw [whole]
    exact rest a after kept

theorem lift (y : Except ε α) : Follows inv (liftExcept y) (liftExcept y : Except ε α) := by
  intro s kept
  cases y with
  | error e => rfl
  | ok a => exact ⟨s, rfl, kept⟩

def relation (inv : σ → Prop) : StepRelation (StateT σ (Except ε)) (Except ε) := ⟨Follows inv, pure, bind⟩

theorem run (follows : Follows inv x y) {s : σ} (kept : inv s) : x.run' s = y := by
  have step := follows s kept
  change Prod.fst <$> x s = y
  cases y with
  | error e =>
    rw [step]
    rfl
  | ok a =>
    obtain ⟨after, made, -⟩ := step
    rw [made]
    rfl

end Follows
end Follows
end Resolve

namespace SchemaRef

inductive Call (schemas : Table SchemaRef) : List String → SchemaRef → Prop
  | top (s) : Call schemas [] s
  | part {path keywords parts s} : Call schemas path (.inline keywords parts) → s ∈ parts.toList →
    Call schemas path s
  | target {path p target} : Call schemas path (.ref p) → p ∉ path → target? schemas p = some target →
    Call schemas (p :: path) target

theorem Call.stacked {schemas : Table SchemaRef} {path : List String} {s : SchemaRef}
    (call : Call schemas path s) : Stacked schemas path s := by
  induction call with
  | top s => exact fun v absent => absurd absent List.not_mem_nil
  | part _ member stacked => exact stacked.part member
  | target _ _ found stacked => exact stacked.follow found

inductive Memo.Left (schemas : Table SchemaRef) : Memo → Prop
  | start : Left schemas {}
  | call {memo path s} : Left schemas memo → Call schemas path s →
    Left schemas (resolveAt schemas path s memo).2

theorem Memo.Left.sound {schemas : Table SchemaRef} {memo : Memo} (left : memo.Left schemas) : memo.Sound schemas := by
  induction left with
  | start => exact sound_empty
  | call _ call sound => exact (resolveAt_gives _ _ call.stacked _ sound).sound

end SchemaRef

/-- A document is resolved as if every schema in it were expanded on its own. -/
theorem Document.resolve_eq (d : Document) : d.resolve = Resolve.document d.parts
    (fun s => Except.ok (SchemaRef.expand d.parts.schemas [] s)) d := by
  have each (s : SchemaRef) : (Resolve.Follows.relation (SchemaRef.Memo.Sound d.parts.schemas)).Rel
      (fun memo => Except.ok (s.resolve d.parts.schemas memo))
      (Except.ok (SchemaRef.expand d.parts.schemas [] s) : Except ReferenceError SchemaRef) := by
    intro memo sound
    have outcome := SchemaRef.resolveAt_gives [] s (SchemaRef.Call.top s).stacked memo sound
    exact ⟨_, by rw [← outcome.value_eq]; rfl, outcome.sound⟩
  have follows := (Resolve.Follows.relation _).document (c := d.parts) each Resolve.Follows.lift d
  exact Resolve.Follows.run follows SchemaRef.Memo.sound_empty

/-- Resolution with a memo is plain expansion: at every call, whatever calls came before it, and in a
document as a whole. -/
theorem Document.resolve_eq_expand (d : Document) :
    (∀ f, SchemaRef.Expansion d.parts.schemas f ↔ f = SchemaRef.expand d.parts.schemas) ∧
    (∀ (path : List String) (s : SchemaRef) (memo : SchemaRef.Memo),
      SchemaRef.Call d.parts.schemas path s → memo.Left d.parts.schemas →
      (SchemaRef.resolveAt d.parts.schemas path s memo).1 = SchemaRef.expand d.parts.schemas path s) ∧
    d.resolve = Resolve.document d.parts
      (fun s => Except.ok (SchemaRef.expand d.parts.schemas [] s)) d := by
  refine ⟨fun f => SchemaRef.expansion_iff, fun path s memo call left => ?_, d.resolve_eq⟩
  exact (SchemaRef.resolveAt_gives path s call.stacked memo left.sound).value_eq

def Document.pair : Document where
  components := some { schemas := [
    ("A", .inline {} { items := some (.ref "#/components/schemas/B") }),
    ("B", .inline {} { items := some (.ref "#/components/schemas/A") })] }

/-- One of the two is expanded in the same way after the other. It stands inside itself where the cycle is cut. -/
theorem Document.pair_expanded_in_turn :
    let first := SchemaRef.resolveAt Document.pair.parts.schemas [] (.ref "#/components/schemas/A") {}
    (SchemaRef.resolveAt Document.pair.parts.schemas [] (.ref "#/components/schemas/B") first.2).1 =
      .inline {} { items := some (.inline {} { items := some (.ref "#/components/schemas/B") }) } := by
  intro first
  obtain ⟨expansion, resolved, -⟩ := Document.pair.resolve_eq_expand
  obtain ⟨cut, -, follow, inline⟩ := (expansion _).mpr rfl
  rw [resolved _ _ _ (.top _) (.call .start (.top _)), follow [] _ _ List.not_mem_nil rfl, inline]
  simp only [Subschemas.map, Option.map_some, Option.map_none, List.map_nil]
  rw [follow _ _ _ (by decide) rfl, inline]
  simp only [Subschemas.map, Option.map_some, Option.map_none, List.map_nil]
  rw [cut _ _ (by decide)]

end ApiAtlas
