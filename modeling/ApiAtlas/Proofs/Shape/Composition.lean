import ApiAtlas.Proofs.Shape.Filling

/-! Lowering keeps composition. A schema is lowered to its node, to a lone part of its composition, or to a
conjunction of them, whichever says enough, and which of these it is never decides what is accepted. Lowered by the
letter, each schema at any depth would be the conjunction of its node and all its parts; that shape accepts the same
values. -/
namespace ApiAtlas

namespace NodeParts

variable {α : Type} {parts : NodeParts α}

theorem admits_congr {ok ok' : α → Json → Prop} (same : ∀ a, parts.Holds a → ∀ w, ok a w ↔ ok' a w)
    (v : Json) : parts.Admits ok v ↔ parts.Admits ok' v := by
  cases v with
  | arr items =>
    refine forall_congr' fun a => imp_congr_right fun found => ?_
    exact forall_congr' fun w => imp_congr_right fun _ => same a (.inl found) w
  | obj members =>
    refine forall_congr' fun key => forall_congr' fun w => imp_congr_right fun _ => and_congr_right fun _ => ?_
    exact forall_congr' fun a => imp_congr_right fun found => same a (holds_of_rule found) w
  | _ => rfl

end NodeParts

namespace Shape

/-- What a schema is lowered to without its composition. -/
def ownNode (s : Schema) : Shape :=
  ofSchema { s with parts := { s.parts with allOf := [], oneOf := [], anyOf := [], not := none } }

def nodeRefs (parts : Subschemas SchemaRef) : NodeParts SchemaRef where
  items := parts.items
  properties := parts.properties
  additional := match parts.additionalProperties with
    | none | some (.flag true) => .allowed
    | some (.flag false) => .denied
    | some (.schema s) => .shape s

def conjunction (lower : SchemaRef → Shape) (k : Keywords) (parts : Subschemas SchemaRef) : Shape :=
  .allOf (.simple (facetsOf k parts) ((nodeRefs parts).map lower) ::
    composition (parts.allOf.map lower) (parts.anyOf.map lower) (parts.oneOf.map lower) (parts.not.map lower))

mutual
/-- A schema by the letter: a conjunction of its node with all parts of its composition, and so are its parts. -/
def spelledOut : SchemaRef → Shape
  | .ref _ => any
  | .inline k parts => spelledParts k parts
def spelledParts (k : Keywords) : Subschemas SchemaRef → Shape
  | ⟨properties, additional, items, alls, ones, anys, negated⟩ =>
    .allOf (.simple (k.facets (!properties.isEmpty || additional.isSome) items.isSome)
        ⟨spelledOption items, spelledTable properties, spelledAdditional additional⟩ ::
      composition (spelledList alls) (spelledList anys) (spelledList ones) (spelledOption negated))
def spelledList : List SchemaRef → List Shape
  | [] => []
  | s :: rest => spelledOut s :: spelledList rest
def spelledOption : Option SchemaRef → Option Shape
  | none => none
  | some s => some (spelledOut s)
def spelledTable : List (String × SchemaRef) → List (String × Shape)
  | [] => []
  | (k, s) :: rest => (k, spelledOut s) :: spelledTable rest
def spelledAdditional : Option (AdditionalSpec SchemaRef) → Additional Shape
  | none | some (.flag true) => .allowed
  | some (.flag false) => .denied
  | some (.schema s) => .shape (spelledOut s)
end

variable {c : Checks} {v : Json} {k : Keywords} {parts : Subschemas SchemaRef} {lower lower' : SchemaRef → Shape}

theorem spelledList_eq (parts : List SchemaRef) : spelledList parts = parts.map spelledOut := by
  induction parts with
  | nil => rfl
  | cons s rest ih => rw [spelledList, ih]; rfl

theorem spelledTable_eq (table : List (String × SchemaRef)) :
    spelledTable table = table.map fun p => (p.1, spelledOut p.2) := by
  induction table with
  | nil => rfl
  | cons p rest ih => rw [spelledTable, ih]; rfl

theorem spelledOption_eq (part : Option SchemaRef) : spelledOption part = part.map spelledOut := by
  cases part <;> rfl

theorem spelledAdditional_eq (parts : Subschemas SchemaRef) :
    spelledAdditional parts.additionalProperties = (nodeRefs parts).additional.map spelledOut := by
  unfold nodeRefs
  rcases parts.additionalProperties with _ | (_ | _) | s <;> rfl

theorem nodeOf_eq (parts : Subschemas SchemaRef) : nodeOf parts = (nodeRefs parts).map ofRef := by
  unfold nodeOf nodeRefs NodeParts.map
  rcases parts.additionalProperties with _ | (_ | _) | s <;> rfl

/-- Without composition there is a single node. -/
theorem ownNode_eq (s : Schema) : ownNode s = .simple (facetsOf s.keywords s.parts) (nodeOf s.parts) := by
  obtain ⟨k, properties, additional, items, alls, ones, anys, negated⟩ := s
  simp only [ownNode, ofSchema, ofParts, ofList_eq, ofTable_eq, ofOption_eq, join_eq]
  rfl

theorem spelledOut_inline : spelledOut (.inline k parts) = conjunction spelledOut k parts := by
  have additional := spelledAdditional_eq parts
  obtain ⟨properties, _, items, alls, ones, anys, negated⟩ := parts
  simp only [spelledOut, spelledParts, spelledList_eq, spelledTable_eq, spelledOption_eq, additional]
  rfl

theorem isValid_ofRef_inline :
    isValid c (ofRef (.inline k parts)) v = isValid c (conjunction ofRef k parts) v := by
  rw [ofRef_inline, isValid_join_eq, nodeOf_eq]
  rfl

theorem isValid_node {α : Type} {lower : α → Shape} {f : Facets} {parts : NodeParts α} :
    isValid c (.simple f (parts.map lower)) v = true ↔
      isValid c (.simple f {}) v = true ∧ parts.Admits (fun a w => isValid c (lower a) w = true) v := by
  rw [isValid_simple, NodeParts.admits_map]

/-- A conjunction accepts a value by the node and by each keyword of the composition. -/
theorem isValid_conjunction : isValid c (conjunction lower k parts) v = true ↔
    isValid c (.simple (facetsOf k parts) ((nodeRefs parts).map lower)) v = true ∧
    (∀ s ∈ parts.allOf, isValid c (lower s) v = true) ∧
    (parts.anyOf ≠ [] → ∃ s ∈ parts.anyOf, isValid c (lower s) v = true) ∧
    (parts.oneOf ≠ [] → (parts.oneOf.countP fun s => isValid c (lower s) v) = 1) ∧
    ∀ s, parts.not = some s → isValid c (lower s) v = false := by
  rw [conjunction, isValid_allOf, List.all_eq_true, List.forall_mem_cons, forall_composition_iff]
  simp [List.countP_map, Function.comp_def]

theorem mem_toList_of_holds {s : SchemaRef} (held : (nodeRefs parts).Holds s) : s ∈ parts.toList := by
  rw [Subschemas.mem_toList]
  rcases held with item | property | additional
  · exact .inr (.inl item)
  · exact .inl property
  · obtain ⟨_, spec, _, _, _, _, _⟩ := parts
    refine .inr (.inr (.inr (.inr (.inr (.inr ?_)))))
    rcases spec with _ | (_ | _) | t <;> cases additional
    exact List.mem_singleton_self _

/-- Conjunctions of parts that accept the same values accept the same values. -/
theorem isValid_conjunction_congr
    (same : ∀ s ∈ parts.toList, ∀ w, isValid c (lower s) w = isValid c (lower' s) w) :
    isValid c (conjunction lower k parts) v = isValid c (conjunction lower' k parts) v := by
  have node : isValid c (.simple (facetsOf k parts) ((nodeRefs parts).map lower)) v = true ↔
      isValid c (.simple (facetsOf k parts) ((nodeRefs parts).map lower')) v = true := by
    rw [isValid_node, isValid_node]
    refine and_congr_right fun _ => NodeParts.admits_congr (fun s held w => ?_) v
    rw [same s (mem_toList_of_holds held) w]
  simp only [Subschemas.mem_toList] at same
  rw [Bool.eq_iff_iff, isValid_conjunction, isValid_conjunction]
  refine and_congr node (and_congr ?all (and_congr ?any (and_congr ?one ?no)))
  case all => exact forall₂_congr fun s member => by rw [same s (by tauto) v]
  case any =>
    exact imp_congr_right fun _ => exists_congr fun s => and_congr_right fun member => by rw [same s (by tauto) v]
  case one =>
    have counts : (parts.oneOf.countP fun s => isValid c (lower s) v) =
        parts.oneOf.countP fun s => isValid c (lower' s) v :=
      List.countP_congr fun s member => by rw [same s (by tauto) v]
    rw [counts]
  case no => exact forall₂_congr fun s member => by rw [same s (by tauto) v]

/-- A schema accepts what it accepts by the letter. -/
theorem isValid_spelledOut (s : SchemaRef) : ∀ v, isValid c (ofRef s) v = isValid c (spelledOut s) v := by
  induction s using SchemaRef.induct with
  | ref path => exact fun v => rfl
  | inline k parts ih =>
    intro v
    rw [isValid_ofRef_inline, spelledOut_inline]
    exact isValid_conjunction_congr ih

/-- A schema accepts the values that its own node, all of `allOf`, some part of `anyOf`, exactly one of `oneOf` and
not the part of `not` accept, each lowered by itself. These are the values that it accepts by the letter, with no
node left out of any conjunction and no lone part unwrapped, at any depth. -/
theorem lowering_keeps_composition (c : Checks) (s : Schema) (v : Json) :
    (isValid c (ofSchema s) v = true ↔
      isValid c (ownNode s) v = true ∧
      (∀ t ∈ s.parts.allOf, isValid c (ofRef t) v = true) ∧
      (s.parts.anyOf ≠ [] → ∃ t ∈ s.parts.anyOf, isValid c (ofRef t) v = true) ∧
      (s.parts.oneOf ≠ [] → (s.parts.oneOf.countP fun t => isValid c (ofRef t) v) = 1) ∧
      ∀ t, s.parts.not = some t → isValid c (ofRef t) v = false) ∧
    isValid c (ofSchema s) v = isValid c (spelledOut (.inline s.keywords s.parts)) v := by
  have lowered : ofSchema s = ofRef (.inline s.keywords s.parts) := by rw [ofSchema, ofRef]
  rw [lowered, ownNode_eq, nodeOf_eq]
  refine ⟨?_, isValid_spelledOut _ v⟩
  rw [isValid_ofRef_inline, isValid_conjunction]

/-- A node with a title alone is left out, and the lone part stands for the schema. -/
example : ofRef (.inline { title := some "Id" } { anyOf := [.ref "#/components/schemas/Id"] }) = .anyOf [any] :=
  rfl

end Shape
end ApiAtlas
