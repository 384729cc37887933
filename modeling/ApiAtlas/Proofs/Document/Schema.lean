import ApiAtlas.Document.Resolve
import Mathlib.Tactic.Tauto

/-! The parts of schemas, and what a visit of all references does to them. The schemas below a schema are
listed in the order of the visit; a reference is mentioned if it stands anywhere below. -/
namespace ApiAtlas

def AdditionalSpec.toList {α : Type} : Option (AdditionalSpec α) → List α
  | some (.schema s) => [s]
  | _ => []

def Subschemas.toList {α : Type} (parts : Subschemas α) : List α :=
  parts.properties.map (·.2) ++ parts.items.toList ++ parts.allOf ++ parts.oneOf ++ parts.anyOf
    ++ parts.not.toList ++ AdditionalSpec.toList parts.additionalProperties

theorem Subschemas.mem_toList {α : Type} {parts : Subschemas α} {s : α} : s ∈ parts.toList ↔
    (∃ key, (key, s) ∈ parts.properties) ∨ parts.items = some s ∨ s ∈ parts.allOf ∨ s ∈ parts.oneOf ∨
      s ∈ parts.anyOf ∨ parts.not = some s ∨ s ∈ AdditionalSpec.toList parts.additionalProperties := by
  simp [toList]

namespace SchemaRef

/-- Induction over the schemas below a schema. -/
@[elab_as_elim]
theorem induct {motive : SchemaRef → Prop} (ref : ∀ path, motive (.ref path))
    (inline : ∀ keywords parts, (∀ s ∈ parts.toList, motive s) → motive (.inline keywords parts))
    (s : SchemaRef) : motive s := by
  refine @SchemaRef.rec motive (fun parts => ∀ s ∈ parts.toList, motive s)
    (fun table => ∀ p ∈ table, motive p.2)
    (fun additional => ∀ s ∈ AdditionalSpec.toList additional, motive s)
    (fun part => ∀ s, part = some s → motive s)
    (fun parts => ∀ s ∈ parts, motive s)
    (fun p => motive p.2)
    (fun additional => ∀ s, additional = .schema s → motive s)
    ref inline ?parts ?noEntry ?entry ?noAdditional ?additional (fun _ absent => nomatch absent) ?some
    ?nil ?cons (fun _ _ proof => proof) (fun _ _ absent => nomatch absent) ?schema s
  case parts =>
    intro properties additional items allOf oneOf anyOf not ofTable ofAdditional ofItems ofAll ofOne
      ofAny ofNot s member
    rcases Subschemas.mem_toList.mp member with
      ⟨key, member⟩ | member | member | member | member | member | member
    · exact ofTable (key, s) member
    · exact ofItems s member
    · exact ofAll s member
    · exact ofOne s member
    · exact ofAny s member
    · exact ofNot s member
    · exact ofAdditional s member
  case noEntry => exact fun _ absent => absurd absent List.not_mem_nil
  case entry =>
    intro head tail first rest p member
    rcases List.mem_cons.mp member with rfl | member
    · exact first
    · exact rest p member
  case noAdditional => exact fun _ absent => absurd absent List.not_mem_nil
  case additional =>
    rintro (b | s) proof t member
    · exact absurd member List.not_mem_nil
    · exact proof t (List.mem_singleton.mp member ▸ rfl)
  case some => rintro s proof t ⟨⟩; exact proof
  case nil => exact fun _ absent => absurd absent List.not_mem_nil
  case cons =>
    intro head tail first rest s member
    rcases List.mem_cons.mp member with rfl | member
    · exact first
    · exact rest s member
  case schema => rintro s proof t ⟨⟩; exact proof

inductive Mentions : SchemaRef → String → Prop
  | ref (path) : Mentions (.ref path) path
  | part {keywords parts s path} : s ∈ parts.toList → Mentions s path →
    Mentions (.inline keywords parts) path

theorem mentions_ref_iff {path p : String} : (ref path).Mentions p ↔ p = path :=
  ⟨fun | .ref _ => rfl, fun same => same ▸ .ref _⟩

theorem mentions_inline_iff {keywords : Keywords} {parts : Subschemas SchemaRef} {path : String} :
    (inline keywords parts).Mentions path ↔ ∃ s ∈ parts.toList, s.Mentions path :=
  ⟨fun | .part member inside => ⟨_, member, inside⟩, fun ⟨_, member, inside⟩ => .part member inside⟩

end SchemaRef

/-! The visit of a schema, level by level. -/
section Visit

variable {α β : Type} {m : Type → Type} [Monad m]

def AdditionalSpec.map (g : α → β) : AdditionalSpec α → AdditionalSpec β
  | .flag b => .flag b
  | .schema s => .schema (g s)

def AdditionalSpec.visit (visit : α → m β) : Option (AdditionalSpec α) → m (Option (AdditionalSpec β))
  | none => return none
  | some (.flag b) => return some (.flag b)
  | some (.schema s) => do return some (.schema (← visit s))

def Subschemas.map (g : α → β) (parts : Subschemas α) : Subschemas β where
  properties := parts.properties.map fun p => (p.1, g p.2)
  additionalProperties := parts.additionalProperties.map (AdditionalSpec.map g)
  items := parts.items.map g
  allOf := parts.allOf.map g
  oneOf := parts.oneOf.map g
  anyOf := parts.anyOf.map g
  not := parts.not.map g

def Subschemas.visit (visit : α → m β) (parts : Subschemas α) : m (Subschemas β) := do
  let properties ← Table.traverse visit parts.properties
  let items ← Option.visit visit parts.items
  let allOf ← parts.allOf.mapM visit
  let oneOf ← parts.oneOf.mapM visit
  let anyOf ← parts.anyOf.mapM visit
  let not ← Option.visit visit parts.not
  let additionalProperties ← AdditionalSpec.visit visit parts.additionalProperties
  return { properties, additionalProperties, items, allOf, oneOf, anyOf, not }

theorem Subschemas.map_congr {f g : α → β} {parts : Subschemas α}
    (same : ∀ s ∈ parts.toList, f s = g s) : parts.map f = parts.map g := by
  obtain ⟨properties, additional, items, allOf, oneOf, anyOf, not⟩ := parts
  simp only [Subschemas.mem_toList] at same
  simp only [Subschemas.map, Subschemas.mk.injEq, List.map_inj_left, Prod.mk.injEq, true_and]
  refine ⟨fun p member => same _ (.inl ⟨p.1, member⟩), ?_, ?_, ?_, ?_, ?_, ?_⟩
  · rcases additional with _ | b | s
    · rfl
    · rfl
    · simp only [Option.map_some, AdditionalSpec.map, same s (by simp [AdditionalSpec.toList])]
  · exact Option.map_congr fun s found => same s (by tauto)
  · exact fun s member => same s (by tauto)
  · exact fun s member => same s (by tauto)
  · exact fun s member => same s (by tauto)
  · exact Option.map_congr fun s found => same s (by tauto)

theorem Subschemas.map_id (parts : Subschemas α) : parts.map id = parts := by
  obtain ⟨properties, additional, items, allOf, oneOf, anyOf, not⟩ := parts
  rcases additional with _ | b | s <;> simp [Subschemas.map, AdditionalSpec.map]

theorem Subschemas.visit_pure [LawfulMonad m] (g : α → β) (parts : Subschemas α) :
    parts.visit (fun s => (pure (g s) : m β)) = pure (parts.map g) := by
  have option (o : Option α) : Option.visit (fun s => (pure (g s) : m β)) o = pure (o.map g) := by
    cases o <;> simp [Option.visit]
  have additional (a : Option (AdditionalSpec α)) :
      AdditionalSpec.visit (fun s => (pure (g s) : m β)) a = pure (a.map (AdditionalSpec.map g)) := by
    rcases a with _ | b | s <;> simp [AdditionalSpec.visit, AdditionalSpec.map]
  simp [visit, map, Table.traverse, option, additional]

theorem SchemaRef.traverse_inline [LawfulMonad m] (visit : String → m SchemaRef) (keywords : Keywords)
    (parts : Subschemas SchemaRef) :
    traverse visit (.inline keywords parts) =
      (do return .inline keywords (← parts.visit (traverse visit))) := by
  have list (l : List SchemaRef) : traverseList visit l = l.mapM (traverse visit) := by
    induction l with
    | nil => simp [traverseList]
    | cons s rest ih => simp [traverseList, ih]
  have table (t : List (String × SchemaRef)) :
      traverseTable visit t = Table.traverse (traverse visit) t := by
    unfold Table.traverse
    induction t with
    | nil => simp [traverseTable]
    | cons p rest ih => simp [traverseTable, ih]
  have option (o : Option SchemaRef) : traverseOption visit o = Option.visit (traverse visit) o := by
    cases o <;> rfl
  have additional (a : Option (AdditionalSpec SchemaRef)) :
      traverseAdditional visit a = AdditionalSpec.visit (traverse visit) a := by
    rcases a with _ | b | s <;> rfl
  rw [traverse, traverseParts]
  simp only [list, table, option, additional]
  rfl

end Visit
end ApiAtlas
