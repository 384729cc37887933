import ApiAtlas.Proofs.Document.Schema
import Mathlib.Logic.Relation

/-! Expansion of references. One reference leads to another if the schema it points to mentions it. An
expansion is cut where a reference leads back to one that is being expanded, so that its result depends
on the references being expanded only as far as they are reached. -/
namespace ApiAtlas.SchemaRef

open Relation (ReflTransGen TransGen)

variable {schemas : Table SchemaRef} {path path' : List String} {p q : String} {s target : SchemaRef}

theorem expand_ref (schemas : Table SchemaRef) (path : List String) (p : String) :
    expand schemas path (.ref p) = if p ∈ path then .ref p else match target? schemas p with
      | some target => expand schemas (p :: path) target
      | none => .ref p := by
  rw [expand, traverse]
  split
  · rfl
  · split <;> simp_all <;> rfl

theorem expand_inline (schemas : Table SchemaRef) (path : List String) (keywords : Keywords)
    (parts : Subschemas SchemaRef) :
    expand schemas path (.inline keywords parts) = .inline keywords (parts.map (expand schemas path)) := by
  have each : expand schemas path = fun s => Id.run (traverse _ s) := funext fun s => expand.eq_1 ..
  rw [expand, traverse_inline, each]
  exact congrArg (inline keywords) (Subschemas.visit_pure (m := Id) _ parts)

/-- What plain expansion does. A reference that is being expanded or leads nowhere stays, any other one gives way to
what it points to, and around references a schema stays as it is. -/
structure Expansion (schemas : Table SchemaRef) (f : List String → SchemaRef → SchemaRef) : Prop where
  cut : ∀ path p, p ∈ path → f path (.ref p) = .ref p
  dangling : ∀ path p, target? schemas p = none → f path (.ref p) = .ref p
  follow : ∀ path p target, p ∉ path → target? schemas p = some target → f path (.ref p) = f (p :: path) target
  inline : ∀ path keywords parts, f path (.inline keywords parts) = .inline keywords (parts.map (f path))

/-- Induction along an expansion. -/
@[elab_as_elim]
theorem expand_induct (schemas : Table SchemaRef) {motive : List String → SchemaRef → Prop}
    (cut : ∀ path p, p ∈ path → motive path (.ref p))
    (dangling : ∀ path p, p ∉ path → target? schemas p = none → motive path (.ref p))
    (follow : ∀ path p target, p ∉ path → target? schemas p = some target →
      motive (p :: path) target → motive path (.ref p))
    (inline : ∀ path keywords parts, (∀ s ∈ parts.toList, motive path s) →
      motive path (.inline keywords parts))
    (path : List String) (s : SchemaRef) : motive path s := by
  induction path, s using expand.induct schemas with
  | case1 path s ih =>
    induction s using induct with
    | ref p =>
      by_cases expanding : p ∈ path
      · exact cut path p expanding
      · cases found : target? schemas p with
        | none => exact dangling path p expanding found
        | some target => exact follow path p target expanding found (ih p expanding target found)
    | inline keywords parts inner => exact inline path keywords parts inner

theorem expansion_expand (schemas : Table SchemaRef) : Expansion schemas (expand schemas) where
  cut path p expanding := by rw [expand_ref, if_pos expanding]
  dangling path p absent := by
    rw [expand_ref, absent]
    split <;> rfl
  follow path p target fresh found := by rw [expand_ref, if_neg fresh, found]
  inline := expand_inline schemas

/-- No other function does what expansion does. -/
theorem expansion_iff {f : List String → SchemaRef → SchemaRef} : Expansion schemas f ↔ f = expand schemas := by
  constructor
  · intro expansion
    funext path s
    induction path, s using expand_induct schemas with
    | cut path p expanding => rw [expansion.cut path p expanding, expand_ref, if_pos expanding]
    | dangling path p fresh absent => rw [expansion.dangling path p absent, expand_ref, if_neg fresh, absent]
    | follow path p target fresh found ih =>
      rw [expansion.follow path p target fresh found, ih, expand_ref, if_neg fresh, found]
    | inline path keywords parts ih => rw [expansion.inline, expand_inline, Subschemas.map_congr ih]
  · rintro rfl
    exact expansion_expand schemas

/-- The schema that one reference points to mentions another. -/
def Leads (schemas : Table SchemaRef) (p q : String) : Prop :=
  ∃ target, target? schemas p = some target ∧ target.Mentions q

def Reaches (schemas : Table SchemaRef) : String → String → Prop := ReflTransGen (Leads schemas)

/-- No reference that is reached leads back to itself. -/
def Acyclic (schemas : Table SchemaRef) (p : String) : Prop :=
  ∀ q, Reaches schemas p q → ¬ TransGen (Leads schemas) q q

theorem acyclic_of_dangling (absent : target? schemas p = none) : Acyclic schemas p := by
  have stuck (q : String) : ¬ Leads schemas p q := by
    rintro ⟨target, found, -⟩
    simp [absent] at found
  intro q reached back
  rcases ReflTransGen.cases_head reached with rfl | ⟨r, first, -⟩
  · obtain ⟨r, first, -⟩ := TransGen.head'_iff.mp back
    exact stuck r first
  · exact stuck r first

/-- A reference is on no cycle if none is behind its target. -/
theorem acyclic_of_target (found : target? schemas p = some target)
    (clean : ∀ q, target.Mentions q → Acyclic schemas q) : Acyclic schemas p := by
  have behind {q : String} (first : Leads schemas p q) : Acyclic schemas q := by
    obtain ⟨other, same, inside⟩ := first
    exact clean q (by simp_all)
  intro q reached back
  rcases ReflTransGen.cases_head reached with rfl | ⟨r, first, further⟩
  · obtain ⟨r, first, further⟩ := TransGen.head'_iff.mp back
    exact behind first p further (TransGen.head' first further)
  · exact behind first q further back

/-- Two expansions agree if the same of the references that they reach are being expanded. -/
theorem expand_congr (path : List String) (s : SchemaRef) : ∀ path',
    (∀ p, s.Mentions p → ∀ q, Reaches schemas p q → (q ∈ path ↔ q ∈ path')) →
    expand schemas path s = expand schemas path' s := by
  induction path, s using expand_induct schemas with
  | cut path p expanding =>
    intro path' same
    have also := (same p (.ref p) p .refl).mp expanding
    rw [expand_ref, expand_ref, if_pos expanding, if_pos also]
  | dangling path p fresh absent =>
    intro path' same
    have also := mt (same p (.ref p) p .refl).mpr fresh
    rw [expand_ref, expand_ref, if_neg fresh, if_neg also, absent]
  | follow path p target fresh found ih =>
    intro path' same
    have also := mt (same p (.ref p) p .refl).mpr fresh
    rw [expand_ref, expand_ref, if_neg fresh, if_neg also, found]
    refine ih (p :: path') fun q inside r reached => ?_
    simp only [List.mem_cons, same p (.ref p) r (.head ⟨target, found, inside⟩ reached)]
  | inline path keywords parts ih =>
    intro path' same
    rw [expand_inline, expand_inline]
    congr 1
    exact Subschemas.map_congr fun s member =>
      ih s member path' fun p inside => same p (.part member inside)

/-- Every reference being expanded leads to every one that stands in a schema. -/
def Stacked (schemas : Table SchemaRef) (path : List String) (s : SchemaRef) : Prop :=
  ∀ v ∈ path, ∀ p, s.Mentions p → TransGen (Leads schemas) v p

theorem Stacked.follow (stacked : Stacked schemas path (.ref p)) (found : target? schemas p = some target) :
    Stacked schemas (p :: path) target := by
  intro v member q inside
  have first : Leads schemas p q := ⟨target, found, inside⟩
  rcases List.mem_cons.mp member with rfl | member
  · exact .single first
  · exact (stacked v member p (.ref p)).tail first

theorem Stacked.part {keywords : Keywords} {parts : Subschemas SchemaRef}
    (stacked : Stacked schemas path (.inline keywords parts)) (member : s ∈ parts.toList) :
    Stacked schemas path s :=
  fun v expanding p inside => stacked v expanding p (.part member inside)

/-- A reference without cycles behind it does not reach what is being expanded. -/
theorem Stacked.not_mem (stacked : Stacked schemas path (.ref p)) (acyclic : Acyclic schemas p)
    (reached : Reaches schemas p q) : q ∉ path :=
  fun expanding => acyclic q reached ((stacked q expanding p (.ref p)).trans_left reached)

/-- A reference without cycles behind it is expanded in the same way wherever it stands. -/
theorem Stacked.expand_eq (stacked : Stacked schemas path (.ref p)) (acyclic : Acyclic schemas p) :
    expand schemas path (.ref p) = expand schemas [] (.ref p) := by
  refine expand_congr path (.ref p) [] fun q inside r reached => ?_
  obtain rfl := mentions_ref_iff.mp inside
  simp [stacked.not_mem acyclic reached]

end ApiAtlas.SchemaRef
