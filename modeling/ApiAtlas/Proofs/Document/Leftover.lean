import ApiAtlas.Proofs.Document.Places

/-! The references that resolution leaves. An expansion stops at a reference that points nowhere, or at one
that is being expanded already; the latter is on a cycle, since every reference being expanded leads to what
stands where the expansion is. So nothing is left of a document without cycles and dangling references. -/
namespace ApiAtlas

open Relation (ReflTransGen TransGen)

theorem Subschemas.toList_map {α β : Type} (g : α → β) (parts : Subschemas α) :
    (parts.map g).toList = parts.toList.map g := by
  have additional (a : Option (AdditionalSpec α)) :
      AdditionalSpec.toList (a.map (AdditionalSpec.map g)) = (AdditionalSpec.toList a).map g := by
    rcases a with _ | b | s <;> rfl
  have option (o : Option α) : (o.map g).toList = o.toList.map g := by cases o <;> rfl
  simp [toList, map, additional, option, Function.comp_def]

namespace SchemaRef

variable {schemas : Table SchemaRef} {path : List String} {p q a b : String} {s : SchemaRef}

theorem mentions_expand_inline {keywords : Keywords} {parts : Subschemas SchemaRef} :
    (expand schemas path (.inline keywords parts)).Mentions q ↔
      ∃ s ∈ parts.toList, (expand schemas path s).Mentions q := by
  rw [expand_inline, mentions_inline_iff, Subschemas.toList_map]
  simp only [List.mem_map, exists_exists_and_eq_and]

/-- What an expansion mentions is reached from what the schema mentions. -/
theorem reaches_of_mentions_expand (path : List String) (s : SchemaRef) :
    (expand schemas path s).Mentions q → ∃ p, s.Mentions p ∧ Reaches schemas p q := by
  induction path, s using expand_induct schemas with
  | cut path p expanding =>
    intro left
    rw [expand_ref, if_pos expanding, mentions_ref_iff] at left
    exact ⟨p, .ref p, left ▸ .refl⟩
  | dangling path p fresh absent =>
    intro left
    rw [expand_ref, if_neg fresh, absent, mentions_ref_iff] at left
    exact ⟨p, .ref p, left ▸ .refl⟩
  | follow path p target fresh found ih =>
    intro left
    rw [expand_ref, if_neg fresh, found] at left
    obtain ⟨r, inside, reached⟩ := ih left
    exact ⟨p, .ref p, .head ⟨target, found, inside⟩ reached⟩
  | inline path keywords parts ih =>
    intro left
    obtain ⟨s, member, left⟩ := mentions_expand_inline.mp left
    obtain ⟨p, inside, reached⟩ := ih s member left
    exact ⟨p, .part member inside, reached⟩

/-- A reference that an expansion leaves points nowhere or leads back to itself. -/
theorem dangling_or_cyclic (path : List String) (s : SchemaRef) : Stacked schemas path s →
    (expand schemas path s).Mentions q → target? schemas q = none ∨ TransGen (Leads schemas) q q := by
  induction path, s using expand_induct schemas with
  | cut path p expanding =>
    intro stacked left
    rw [expand_ref, if_pos expanding, mentions_ref_iff] at left
    exact left ▸ .inr (stacked p expanding p (.ref p))
  | dangling path p fresh absent =>
    intro stacked left
    rw [expand_ref, if_neg fresh, absent, mentions_ref_iff] at left
    exact left ▸ .inl absent
  | follow path p target fresh found ih =>
    intro stacked left
    rw [expand_ref, if_neg fresh, found] at left
    exact ih (stacked.follow found) left
  | inline path keywords parts ih =>
    intro stacked left
    obtain ⟨s, member, left⟩ := mentions_expand_inline.mp left
    exact ih s member (stacked.part member) left

/-- The component of one name refers to that of another one. -/
def Uses (schemas : Table SchemaRef) (a b : String) : Prop :=
  ∃ s q, schemas.get? a = some s ∧ s.Mentions q ∧ Reference.name "schemas" q = .ok b

theorem uses_of_leads (leads : Leads schemas p q) (named : Reference.name "schemas" q = .ok b) :
    ∃ a, Reference.name "schemas" p = .ok a ∧ Uses schemas a b := by
  obtain ⟨target, found, inside⟩ := leads
  unfold target? Reference.lookup? at found
  split at found
  next a first => exact ⟨a, first, target, q, found, inside, named⟩
  next => contradiction

/-- A way from one reference to another is a way between the components that they name. -/
theorem uses_of_transGen (way : TransGen (Leads schemas) p q)
    (named : Reference.name "schemas" q = .ok b) :
    ∃ a, Reference.name "schemas" p = .ok a ∧ TransGen (Uses schemas) a b := by
  induction way using TransGen.head_induction_on with
  | single leads =>
    obtain ⟨a, first, uses⟩ := uses_of_leads leads named
    exact ⟨a, first, .single uses⟩
  | head leads _ ih =>
    obtain ⟨c, middle, further⟩ := ih
    obtain ⟨a, first, uses⟩ := uses_of_leads leads middle
    exact ⟨a, first, .head uses further⟩

/-- A reference that leads back to itself names a component that reaches itself. -/
theorem uses_of_cycle (cycle : TransGen (Leads schemas) q q) :
    ∃ key, Reference.name "schemas" q = .ok key ∧ TransGen (Uses schemas) key key := by
  obtain ⟨r, ⟨target, found, -⟩, -⟩ := TransGen.head'_iff.mp cycle
  obtain ⟨key, named⟩ : ∃ key, Reference.name "schemas" q = .ok key := by
    unfold target? Reference.lookup? at found
    split at found
    next key named => exact ⟨key, named⟩
    next => contradiction
  obtain ⟨key', again, back⟩ := uses_of_transGen cycle named
  obtain rfl : key = key' := Except.ok.inj (named.symm.trans again)
  exact ⟨key, named, back⟩

end SchemaRef

/-- The target of a reference is one of the schemas of the document. -/
theorem Document.mem_allSchemas_of_target {d : Document} {p : String} {target : SchemaRef}
    (found : SchemaRef.target? d.parts.schemas p = some target) : target ∈ d.allSchemas := by
  obtain ⟨key, member⟩ := Reference.mem_of_lookup? found
  have listed : target ∈ d.parts.schemas.map (·.2) := List.mem_map_of_mem (f := Prod.snd) member
  exact List.mem_append_left _ (List.mem_append_right _ listed)

/-- A reference that is left in a resolved document points nowhere or names a component that reaches
itself; none is left if all components are without cycles and all references have targets. -/
theorem Document.references_left_by_resolve {d r : Document} (resolved : d.resolve = .ok r) :
    (∀ s ∈ r.schemas, ∀ q, s.Mentions q → SchemaRef.target? d.parts.schemas q = none ∨
      ∃ key, Reference.name "schemas" q = .ok key ∧ TransGen (SchemaRef.Uses d.parts.schemas) key key) ∧
    ((∀ key, ¬ TransGen (SchemaRef.Uses d.parts.schemas) key key) →
      (∀ s ∈ d.allSchemas, ∀ q, s.Mentions q → SchemaRef.target? d.parts.schemas q ≠ none) →
      ∀ s ∈ r.schemas, ∀ q, ¬ s.Mentions q) := by
  have left : ∀ s ∈ r.schemas, ∀ q, s.Mentions q → SchemaRef.target? d.parts.schemas q = none ∨
      ∃ key, Reference.name "schemas" q = .ok key ∧
        TransGen (SchemaRef.Uses d.parts.schemas) key key := by
    intro s member q inside
    obtain ⟨given, -, rfl⟩ := d.schemas_of_resolve resolved s member
    have stacked : SchemaRef.Stacked d.parts.schemas [] given := (SchemaRef.Call.top given).stacked
    exact (SchemaRef.dangling_or_cyclic [] given stacked inside).imp_right SchemaRef.uses_of_cycle
  refine ⟨left, fun acyclic pointed s member q inside => ?_⟩
  rcases left s member q inside with absent | ⟨key, -, cycle⟩
  · obtain ⟨given, origin, rfl⟩ := d.schemas_of_resolve resolved s member
    obtain ⟨p, first, reached⟩ := SchemaRef.reaches_of_mentions_expand [] given inside
    -- The reference stands in the document: it is the first one on the way, or its last step leads to it.
    rcases ReflTransGen.cases_tail reached with rfl | ⟨c, -, target, found, last⟩
    · exact pointed given origin q first absent
    · exact pointed target (Document.mem_allSchemas_of_target found) q last absent
  · exact acyclic key cycle

def Document.chain : Document where
  paths := [("/items", { get := some { parameters := [.ref "#/components/parameters/Limit"] } })]
  components := some {
    parameters := [("Limit", .inline { name := "limit", location := .query,
                                       schema := some (.ref "#/components/schemas/Page") })]
    schemas := [
      ("Page", .inline {} { items := some (.ref "#/components/schemas/Size") }),
      ("Size", .inline { type := some (.one .integer) } {})] }

theorem Document.mentions_chain {s : SchemaRef} {q : String} (member : s ∈ Document.chain.allSchemas)
    (inside : s.Mentions q) : q = "#/components/schemas/Page" ∨ q = "#/components/schemas/Size" := by
  have listed : s = .inline {} { items := some (.ref "#/components/schemas/Size") } ∨
      s = .inline { type := some (.one .integer) } {} ∨ s = .ref "#/components/schemas/Page" := by
    simpa [allSchemas, schemas, chain, parts, Components.carried, Table.schemas, PathItem.schemas,
      PathItem.operations, Verb.all, PathItem.operation?, Operation.schemas, RefOr.schemas,
      Parameter.schemas] using member
  rcases listed with rfl | rfl | rfl
  · obtain ⟨part, found, inside⟩ := SchemaRef.mentions_inline_iff.mp inside
    obtain rfl : part = .ref "#/components/schemas/Size" := by
      simpa [Subschemas.toList, AdditionalSpec.toList] using found
    exact .inr (SchemaRef.mentions_ref_iff.mp inside)
  · obtain ⟨part, found, -⟩ := SchemaRef.mentions_inline_iff.mp inside
    simp [Subschemas.toList, AdditionalSpec.toList] at found
  · exact .inl (SchemaRef.mentions_ref_iff.mp inside)

/-- Of these no reference is left, neither among the components nor in the parameter that takes the place
of its reference. -/
theorem Document.chain_left_without_references :
    ∃ r, Document.chain.resolve = .ok r ∧ ∀ s ∈ r.schemas, ∀ q, ¬ s.Mentions q := by
  obtain ⟨r, resolved⟩ : ∃ r, Document.chain.resolve = .ok r := by
    rw [Document.chain.resolve_eq]
    exact ⟨_, rfl⟩
  refine ⟨r, resolved, (Document.references_left_by_resolve resolved).2 ?_ ?_⟩
  · have page {a b : String} (uses : SchemaRef.Uses Document.chain.parts.schemas a b) :
        a = "Page" ∧ b = "Size" := by
      obtain ⟨s, q, found, inside, named⟩ := uses
      have entry : (a, s) ∈ Document.chain.parts.schemas := Table.mem_of_get? found
      simp only [Document.chain, Document.parts, Option.getD_some, List.mem_cons, Prod.mk.injEq,
        List.not_mem_nil, or_false] at entry
      rcases entry with ⟨rfl, rfl⟩ | ⟨rfl, rfl⟩
      · obtain ⟨part, found, inside⟩ := SchemaRef.mentions_inline_iff.mp inside
        obtain rfl : part = .ref "#/components/schemas/Size" := by
          simpa [Subschemas.toList, AdditionalSpec.toList] using found
        obtain rfl := SchemaRef.mentions_ref_iff.mp inside
        exact ⟨rfl, (Except.ok.inj named).symm⟩
      · obtain ⟨part, found, -⟩ := SchemaRef.mentions_inline_iff.mp inside
        simp [Subschemas.toList, AdditionalSpec.toList] at found
    intro key cycle
    obtain ⟨c, first, -⟩ := TransGen.head'_iff.mp cycle
    obtain ⟨c, -, last⟩ := TransGen.tail'_iff.mp cycle
    exact absurd ((page first).1.symm.trans (page last).2) (by decide)
  · intro s member q inside
    rcases Document.mentions_chain member inside with rfl | rfl
    · exact Option.some_ne_none _
    · exact Option.some_ne_none _

end ApiAtlas
