import ApiAtlas.Proofs.Document.Inlining

/-! What pointers decide. A document is resolved exactly if each of its pointers names a definition in its
own section; no other reference matters. A component that is a reference again defines nothing, so that a
chain of references is resolved exactly if it has one link. -/
namespace ApiAtlas

namespace Resolve

variable {α : Type} {c : Components} {ps : List Pointer} {a b : α} {e : ReferenceError}

theorem guarded_eq_ok_iff :
    guarded c ps a = .ok b ↔ (∀ p ∈ ps, p.Intact c) ∧ a = b := by
  simp only [guarded, ← Pointer.fault?_eq_none_iff, ← List.findSome?_eq_none_iff]
  cases ps.findSome? (Pointer.fault? c) with
  | none => simp
  | some e => simp

theorem guarded_eq_error_iff : guarded c ps a = .error e ↔
    ∃ before p after, ps = before ++ p :: after ∧ p.Broken c e ∧ ∀ q ∈ before, q.Intact c := by
  simp only [← Pointer.fault?_eq_some_iff, ← Pointer.fault?_eq_none_iff, ← List.findSome?_eq_some_iff, guarded]
  cases ps.findSome? (Pointer.fault? c) with
  | none => simp
  | some e' => simp

end Resolve

/-- A broken pointer of a document before which none is broken. -/
def Document.FirstBroken (d : Document) (p : Pointer) (e : ReferenceError) : Prop :=
  ∃ before after, d.pointers = before ++ p :: after ∧ p.Broken d.parts e ∧
    ∀ q ∈ before, q.Intact d.parts

theorem Document.resolve_eq_ok_iff {d r : Document} : d.resolve = .ok r ↔
    (∀ p ∈ d.pointers, p.Intact d.parts) ∧
      Inlined.document d.parts (SchemaRef.expand d.parts.schemas []) d = r := by
  rw [d.resolve_eq_guarded, Resolve.guarded_eq_ok_iff]

theorem Document.resolve_eq_error_iff {d : Document} {e : ReferenceError} :
    d.resolve = .error e ↔ ∃ p, d.FirstBroken p e := by
  rw [d.resolve_eq_guarded, Resolve.guarded_eq_error_iff]
  exact exists_comm

/-- Resolution succeeds exactly if all pointers are intact, whatever stands at the places of schemas, headers
and examples. It fails exactly if one is broken, wherever in the paths and webhooks it stands, and the error
is that of the first one. -/
theorem Document.resolves_iff_pointers_intact (d : Document) :
    ((∃ r, d.resolve = .ok r) ↔ ∀ p ∈ d.pointers, p.Intact d.parts) ∧
    ((∃ e, d.resolve = .error e) ↔ ∃ p ∈ d.pointers, ∃ e, p.Broken d.parts e) ∧
    ∀ e, d.resolve = .error e ↔ ∃ p, d.FirstBroken p e := by
  have succeeds : (∃ r, d.resolve = .ok r) ↔ ∀ p ∈ d.pointers, p.Intact d.parts := by
    simp only [resolve_eq_ok_iff, exists_and_left, exists_eq', and_true]
  refine ⟨succeeds, ?_, fun e => resolve_eq_error_iff⟩
  constructor
  · rintro ⟨e, failed⟩
    obtain ⟨p, before, after, whole, broken, -⟩ := resolve_eq_error_iff.mp failed
    exact ⟨p, by simp [whole], e, broken⟩
  · rintro ⟨p, member, e, broken⟩
    cases outcome : d.resolve with
    | error e => exact ⟨e, rfl⟩
    | ok r =>
      exact absurd broken (succeeds.mp ⟨r, outcome⟩ p member).not_broken

/-! Chains of references. -/

/-- A reference leads to a definition from component to component of its section; the number counts the
references on the way. -/
inductive RefOr.Leads {α : Type} (section_ : String) (table : Table (RefOr α)) : RefOr α → Nat → α → Prop
  | inline (a) : Leads section_ table (.inline a) 0 a
  | follow {path key next n a} : Reference.split? path = some (section_, key) → table.get? key = some next →
    Leads section_ table next n a → Leads section_ table (.ref path) (n + 1) a

namespace RefOr.Leads

variable {α : Type} {section_ path : String} {table : Table (RefOr α)} {n : Nat} {a : α}

/-- A chain of one link is what a look-up follows. -/
theorem one_iff : (RefOr.ref path).Leads section_ table 1 a ↔ ∃ key,
    Reference.split? path = some (section_, key) ∧ (table.get? key).bind RefOr.inline? = some a := by
  constructor
  · rintro (_ | ⟨named, found, ⟨⟩⟩)
    exact ⟨_, named, by rw [found]; rfl⟩
  · rintro ⟨key, named, defined⟩
    obtain ⟨next, found, same⟩ := Option.bind_eq_some_iff.mp defined
    cases next with
    | ref p => contradiction
    | inline b =>
      obtain rfl := Option.some.inj same
      exact .follow named found (.inline b)

theorem find_eq_ok (leads : (RefOr.ref path).Leads section_ table 1 a) :
    Reference.find section_ table path = .ok a := by
  obtain ⟨key, named, found⟩ := one_iff.mp leads
  simp [Reference.find, Reference.name, named, found, bind, Except.bind]

/-- Behind the first of several links stands a reference. -/
theorem exists_first (leads : (RefOr.ref path).Leads section_ table n a) (several : n ≠ 1) : ∃ key,
    Reference.split? path = some (section_, key) ∧ (table.get? key).bind RefOr.inline? = none := by
  cases leads with
  | follow named found rest =>
    refine ⟨_, named, ?_⟩
    cases rest with
    | inline a => exact absurd rfl several
    | follow => rw [found]; rfl

end RefOr.Leads

def Pointer.Leads (c : Components) (p : Pointer) (n : Nat) : Prop :=
  match p.kind with
  | .parameter => ∃ a, (RefOr.ref p.path).Leads p.kind.sectionName c.parameters n a
  | .body => ∃ a, (RefOr.ref p.path).Leads p.kind.sectionName c.requestBodies n a
  | .response => ∃ a, (RefOr.ref p.path).Leads p.kind.sectionName c.responses n a

namespace Pointer

variable {c : Components} {p : Pointer} {n : Nat}

theorem leads_one_iff : p.Leads c 1 ↔ p.Intact c := by
  obtain ⟨kind, path⟩ := p
  cases kind <;>
    simp only [Leads, Intact, Components.defines, Option.isSome_iff_exists, RefOr.Leads.one_iff,
      ← exists_and_left] <;>
    exact exists_comm

theorem Leads.broken (leads : p.Leads c n) (several : n ≠ 1) : p.Broken c (.missing p.path) := by
  obtain ⟨kind, path⟩ := p
  have first : ∃ key, Reference.split? path = some (kind.sectionName, key) ∧
      c.defines key kind = false := by
    cases kind <;>
    · obtain ⟨a, leads⟩ := leads
      obtain ⟨key, named, absent⟩ := leads.exists_first several
      exact ⟨key, named, by rw [Components.defines, absent]; rfl⟩
  obtain ⟨key, named, absent⟩ := first
  exact .missing named absent

end Pointer

/-! What stands in the place of definitions and of references to them. -/
section Placed

variable (c : Components) (g : SchemaRef → SchemaRef)

def RefOr.Placed {α : Type} (section_ : String) (table : Table (RefOr α)) (fill : α → α)
    (given kept : RefOr α) : Prop :=
  ∃ n a, given.Leads section_ table n a ∧ kept = .inline (fill a)

structure Operation.Placed (given kept : Operation) : Prop where
  parameters : List.Forall₂ (RefOr.Placed "parameters" c.parameters (Inlined.parameter c g))
    given.parameters kept.parameters
  requestBody : Option.Rel (RefOr.Placed "requestBodies" c.requestBodies (Inlined.body c g))
    given.requestBody kept.requestBody
  responses : List.Forall₂ (fun p q => p.1 = q.1 ∧
    RefOr.Placed "responses" c.responses (Inlined.response c g) p.2 q.2) given.responses kept.responses

structure PathItem.Placed (given kept : PathItem) : Prop where
  parameters : List.Forall₂ (RefOr.Placed "parameters" c.parameters (Inlined.parameter c g))
    given.parameters kept.parameters
  operation : ∀ v, Option.Rel (Operation.Placed c g) (given.operation? v) (kept.operation? v)

/-- In paths and webhooks of a document stands what those of another one define or refer to. -/
structure Document.Placed (given kept : Document) : Prop where
  paths : List.Forall₂ (fun p q => p.1 = q.1 ∧ PathItem.Placed c g p.2 q.2) given.paths kept.paths
  webhooks : List.Forall₂ (fun p q => p.1 = q.1 ∧ PathItem.Placed c g p.2 q.2) given.webhooks kept.webhooks

end Placed

namespace Inlined

variable {c : Components} {g : SchemaRef → SchemaRef}

/-- What is inlined for an intact pointer is the definition to which it leads. -/
theorem definition_placed {α : Type} (kind : Pointer.Kind) {table : Table (RefOr α)} {fill : α → α}
    (leads : ∀ path, Pointer.Leads c ⟨kind, path⟩ 1 → ∃ a, (RefOr.ref path).Leads kind.sectionName table 1 a)
    {r : RefOr α} (intact : ∀ p ∈ Pointer.ofRef kind r, p.Intact c) :
    r.Placed kind.sectionName table fill (definition kind.sectionName table fill r) := by
  cases r with
  | inline a => exact ⟨0, a, .inline a, rfl⟩
  | ref path =>
    obtain ⟨a, leads⟩ := leads path (Pointer.leads_one_iff.mpr (intact _ (List.mem_singleton.mpr rfl)))
    refine ⟨1, a, leads, ?_⟩
    rw [definition, RefOr.definition?, leads.find_eq_ok]
    rfl

theorem forall₂_of_forall_mem {α β : Type} {R : α → β → Prop} {f : α → β} {l : List α}
    (each : ∀ a ∈ l, R a (f a)) : List.Forall₂ R l (l.map f) :=
  List.forall₂_map_right_iff.mpr (List.forall₂_same.mpr each)

theorem optionRel_of_forall_mem {α β : Type} {R : α → β → Prop} {f : α → β} {o : Option α}
    (each : ∀ a ∈ o, R a (f a)) : Option.Rel R o (o.map f) := by
  cases o with
  | none => exact .none
  | some a => exact .some (each a rfl)

theorem parameters_placed {l : List (RefOr Parameter)}
    (intact : ∀ p ∈ l.flatMap (Pointer.ofRef .parameter), p.Intact c) :
    List.Forall₂ (RefOr.Placed "parameters" c.parameters (parameter c g)) l (l.map (parameterRef c g)) :=
  forall₂_of_forall_mem fun r member => definition_placed .parameter (fun _ => id) fun p inside =>
    intact p (List.mem_flatMap.mpr ⟨r, member, inside⟩)

theorem operation_placed {o : Operation} (intact : ∀ p ∈ o.pointers, p.Intact c) :
    o.Placed c g (operation c g o) := by
  simp only [Operation.pointers, List.forall_mem_append] at intact
  obtain ⟨⟨parameters, body⟩, responses⟩ := intact
  refine ⟨parameters_placed parameters, ?_, ?_⟩
  · refine optionRel_of_forall_mem fun r member => definition_placed .body (fun _ => id) fun p inside => ?_
    exact body p (List.mem_flatMap.mpr ⟨r, by simpa using member, inside⟩)
  · refine forall₂_of_forall_mem fun r member => ⟨rfl, definition_placed .response (fun _ => id) fun p inside => ?_⟩
    exact responses p (List.mem_flatMap.mpr ⟨r, member, inside⟩)

theorem operation?_pathItem (i : PathItem) (v : Verb) :
    (pathItem c g i).operation? v = (i.operation? v).map (operation c g) := by
  cases v <;> rfl

theorem pathItem_placed {i : PathItem} (intact : ∀ p ∈ i.pointers, p.Intact c) :
    i.Placed c g (pathItem c g i) := by
  simp only [PathItem.pointers_eq, List.forall_mem_append] at intact
  refine ⟨parameters_placed intact.1, fun v => ?_⟩
  rw [operation?_pathItem]
  refine optionRel_of_forall_mem fun o declared => operation_placed fun p inside => intact.2 p ?_
  refine List.mem_flatMap.mpr ⟨v, ?_, List.mem_flatMap.mpr ⟨o, by simpa using declared, inside⟩⟩
  cases v <;> decide

theorem document_placed {d : Document} (intact : ∀ p ∈ d.pointers, p.Intact c) :
    d.Placed c g (document c g d) := by
  obtain ⟨paths, webhooks⟩ := List.forall_mem_append.mp intact
  constructor
  · refine forall₂_of_forall_mem fun entry member => ⟨rfl, pathItem_placed fun p inside => ?_⟩
    exact paths p (List.mem_flatMap.mpr ⟨entry, member, inside⟩)
  · refine forall₂_of_forall_mem fun entry member => ⟨rfl, pathItem_placed fun p inside => ?_⟩
    exact webhooks p (List.mem_flatMap.mpr ⟨entry, member, inside⟩)

end Inlined

/-- A document in which every pointer leads to a definition is resolved, with the definitions in the place of
the pointers, exactly if each leads there in one step; else the first one with more steps to go is said to be
missing its target. -/
theorem Document.resolves_chains_of_one_link {d : Document}
    (chained : ∀ p ∈ d.pointers, ∃ n, p.Leads d.parts n) :
    ((∃ r, d.resolve = .ok r ∧ d.Placed d.parts (SchemaRef.expand d.parts.schemas []) r) ↔
      ∀ p ∈ d.pointers, p.Leads d.parts 1) ∧
    ∀ e, d.resolve = .error e ↔ ∃ before p after n, d.pointers = before ++ p :: after ∧
      (∀ q ∈ before, q.Leads d.parts 1) ∧ p.Leads d.parts n ∧ n ≠ 1 ∧ e = .missing p.path := by
  simp only [Pointer.leads_one_iff]
  refine ⟨⟨?_, fun intact => ?_⟩, fun e => ⟨fun failed => ?_, ?_⟩⟩
  · rintro ⟨r, resolved, -⟩
    exact (resolve_eq_ok_iff.mp resolved).1
  · exact ⟨_, resolve_eq_ok_iff.mpr ⟨intact, rfl⟩, Inlined.document_placed intact⟩
  · obtain ⟨p, before, after, whole, broken, intact⟩ := resolve_eq_error_iff.mp failed
    obtain ⟨n, leads⟩ := chained p (by simp [whole])
    have several : n ≠ 1 := by
      rintro rfl
      exact (Pointer.leads_one_iff.mp leads).not_broken broken
    exact ⟨before, p, after, n, whole, intact, leads, several, broken.unique (leads.broken several)⟩
  · rintro ⟨before, p, after, n, whole, intact, leads, several, rfl⟩
    exact resolve_eq_error_iff.mpr ⟨p, before, after, whole, leads.broken several, intact⟩

def Document.relay : Document where
  paths := [("/items", { get := some { parameters := [.ref "#/components/parameters/Page"] } })]
  components := some { parameters := [
    ("Page", .ref "#/components/parameters/Limit"),
    ("Limit", .inline { name := "limit", location := .query })] }

theorem Document.leads_relay : ∀ p ∈ Document.relay.pointers, p.Leads Document.relay.parts 2 := by
  have only : Document.relay.pointers = [⟨.parameter, "#/components/parameters/Page"⟩] := rfl
  simp only [only, List.mem_singleton, forall_eq]
  have page : Reference.split? "#/components/parameters/Page" = some ("parameters", "Page") := by decide
  have limit : Reference.split? "#/components/parameters/Limit" = some ("parameters", "Limit") := by decide
  exact ⟨_, .follow page rfl (.follow limit rfl (.inline _))⟩

/-- It leads to a definition in two steps and is said to be missing. -/
theorem Document.relay_missing :
    (∀ p ∈ Document.relay.pointers, ∃ n, p.Leads Document.relay.parts n) ∧
    Document.relay.resolve = .error (.missing "#/components/parameters/Page") := by
  have chained : ∀ p ∈ Document.relay.pointers, ∃ n, p.Leads Document.relay.parts n :=
    fun p member => ⟨2, Document.leads_relay p member⟩
  refine ⟨chained, ((Document.resolves_chains_of_one_link chained).2 _).mpr ?_⟩
  refine ⟨[], ⟨.parameter, "#/components/parameters/Page"⟩, [], 2, rfl, by simp, ?_, by decide, rfl⟩
  exact Document.leads_relay _ (List.mem_singleton.mpr rfl)

/-- A chain of references to a definition is not enough for resolution. -/
theorem Document.relay_not_resolved :
    (∀ p ∈ Document.relay.pointers, ∃ n, p.Leads Document.relay.parts n) ∧
    ¬ ∃ r, Document.relay.resolve = .ok r := by
  refine ⟨fun p member => ⟨2, Document.leads_relay p member⟩, ?_⟩
  rintro ⟨r, resolved⟩
  have only : (⟨.parameter, "#/components/parameters/Page"⟩ : Pointer) ∈ Document.relay.pointers :=
    List.mem_singleton.mpr rfl
  have intact := (Document.resolve_eq_ok_iff.mp resolved).1 _ only
  exact intact.not_broken ((Document.leads_relay _ only).broken (by decide))

end ApiAtlas
