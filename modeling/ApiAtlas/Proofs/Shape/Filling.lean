import ApiAtlas.Proofs.Document.Schema
import ApiAtlas.Proofs.Shape.Loosening
import ApiAtlas.Shape.Lower

/-! References that are left in a schema. Filling one in makes the schema say more, so that what a filled
schema accepts the schema with the reference should accept too. It does as long as no reference stands
inside a `oneOf` or a `not`; there it can make a part match that the filled part does not. -/
namespace ApiAtlas

section Relations

variable {α β : Type}

inductive AdditionalSpec.Rel (R : α → β → Prop) : AdditionalSpec α → AdditionalSpec β → Prop
  | flag (b) : Rel R (.flag b) (.flag b)
  | schema {a b} : R a b → Rel R (.schema a) (.schema b)

inductive Subschemas.Rel (R : α → β → Prop) : Subschemas α → Subschemas β → Prop
  | mk {properties additional items allOf oneOf anyOf not properties' additional' items' allOf' oneOf'
      anyOf' not'} :
    List.Forall₂ (Keyed R) properties properties' →
    Option.Rel (AdditionalSpec.Rel R) additional additional' → Option.Rel R items items' →
    List.Forall₂ R allOf allOf' → List.Forall₂ R oneOf oneOf' → List.Forall₂ R anyOf anyOf' →
    Option.Rel R not not' →
    Rel R ⟨properties, additional, items, allOf, oneOf, anyOf, not⟩
      ⟨properties', additional', items', allOf', oneOf', anyOf', not'⟩

theorem forall₂_imp_of_mem {R S : α → β → Prop} {as : List α} {bs : List β}
    (related : List.Forall₂ R as bs) (weaken : ∀ a ∈ as, ∀ b, R a b → S a b) : List.Forall₂ S as bs := by
  induction related with
  | nil => exact .nil
  | cons head _ ih =>
    exact .cons (weaken _ (by simp) _ head) (ih fun a member => weaken a (by simp [member]))

theorem optionRel_imp_of_mem {R S : α → β → Prop} {a : Option α} {b : Option β}
    (related : Option.Rel R a b) (weaken : ∀ x ∈ a, ∀ y, R x y → S x y) : Option.Rel S a b := by
  cases related with
  | none => exact .none
  | some same => exact .some (weaken _ rfl _ same)

theorem Subschemas.Rel.imp_of_mem {R S : α → β → Prop} {p : Subschemas α} {q : Subschemas β}
    (related : Subschemas.Rel R p q) (weaken : ∀ a ∈ p.toList, ∀ b, R a b → S a b) :
    Subschemas.Rel S p q := by
  obtain ⟨properties, additional, items, allOf, oneOf, anyOf, not⟩ := related
  simp only [Subschemas.mem_toList] at weaken
  refine ⟨forall₂_imp_of_mem properties ?_, optionRel_imp_of_mem additional ?_,
    optionRel_imp_of_mem items ?_, forall₂_imp_of_mem allOf ?_, forall₂_imp_of_mem oneOf ?_,
    forall₂_imp_of_mem anyOf ?_, optionRel_imp_of_mem not ?_⟩
  · rintro ⟨key, a⟩ member _ ⟨same⟩
    exact .mk (weaken a (.inl ⟨key, member⟩) _ same)
  · rintro _ found _ (b | same)
    · exact .flag b
    · cases found
      exact .schema (weaken _ (by simp [AdditionalSpec.toList]) _ same)
  all_goals exact fun a member => weaken a (by tauto)

theorem forall₂_eq_of_mem {R : α → α → Prop} {as bs : List α} (related : List.Forall₂ R as bs)
    (same : ∀ a ∈ as, ∀ b, R a b → b = a) : bs = as := by
  induction related with
  | nil => rfl
  | cons head _ ih =>
    rw [same _ (by simp) _ head, ih fun a member => same a (by simp [member])]

theorem optionRel_eq_of_mem {R : α → α → Prop} {a b : Option α} (related : Option.Rel R a b)
    (same : ∀ x ∈ a, ∀ y, R x y → y = x) : b = a := by
  cases related with
  | none => rfl
  | some together => rw [same _ rfl _ together]

theorem Subschemas.Rel.eq_of_mem {R : α → α → Prop} {p q : Subschemas α} (related : Subschemas.Rel R p q)
    (same : ∀ a ∈ p.toList, ∀ b, R a b → b = a) : q = p := by
  obtain ⟨properties, additional, items, allOf, oneOf, anyOf, not⟩ := related
  simp only [Subschemas.mem_toList] at same
  congr 1
  · refine forall₂_eq_of_mem properties ?_
    rintro ⟨key, a⟩ member _ ⟨together⟩
    rw [same a (.inl ⟨key, member⟩) _ together]
  · refine optionRel_eq_of_mem additional ?_
    rintro _ found _ (b | together)
    · rfl
    · cases found
      rw [same _ (by simp [AdditionalSpec.toList]) _ together]
  · exact optionRel_eq_of_mem items fun a member => same a (by tauto)
  · exact forall₂_eq_of_mem allOf fun a member => same a (by tauto)
  · exact forall₂_eq_of_mem oneOf fun a member => same a (by tauto)
  · exact forall₂_eq_of_mem anyOf fun a member => same a (by tauto)
  · exact optionRel_eq_of_mem not fun a member => same a (by tauto)

end Relations

namespace Shape

variable {c : Checks} {f : Facets} {v : Json}

theorem ofList_eq (parts : List SchemaRef) : ofList parts = parts.map ofRef := by
  induction parts with
  | nil => rfl
  | cons s rest ih => rw [ofList, ih]; rfl

theorem ofTable_eq (table : List (String × SchemaRef)) :
    ofTable table = table.map fun p => (p.1, ofRef p.2) := by
  induction table with
  | nil => rfl
  | cons p rest ih => rw [ofTable, ih]; rfl

theorem ofOption_eq (part : Option SchemaRef) : ofOption part = part.map ofRef := by
  cases part <;> rfl

/-- A node that only describes accepts every value. -/
theorem isValid_of_saysNothing {p : NodeParts Shape} (silent : saysNothing f p = true) :
    isValid c (.simple f p) v = true := by
  obtain ⟨items, properties, additional⟩ := p
  simp only [saysNothing, Bool.and_eq_true, beq_iff_eq] at silent
  obtain ⟨⟨⟨plain, noItems⟩, noProperty⟩, allowed⟩ := silent
  cases items <;> simp at noItems
  cases properties <;> simp at noProperty
  cases additional <;> simp at allowed
  have same : issues c (.simple f {}) v [] = issues c (.simple { f with description := none } {}) v [] := by
    rfl
  rw [isValid, validate, same, plain]
  exact isValid_any

/-- The parts of a composition, in their order. -/
def composition (alls anys ones : List Shape) (negated : Option Shape) : List Shape :=
  alls ++ (if anys.isEmpty then [] else [.anyOf anys]) ++ (if ones.isEmpty then [] else [.oneOf ones])
    ++ (match negated with | some s => [.not s] | none => [])

theorem join_eq (f : Facets) (p : NodeParts Shape) (alls anys ones : List Shape) (negated : Option Shape) :
    join f p alls anys ones negated = match composition alls anys ones negated with
      | [] => .simple f p
      | first :: rest =>
        if !saysNothing f p then .allOf (.simple f p :: first :: rest)
        else if rest.isEmpty && alls.isEmpty then first
        else .allOf (first :: rest) := rfl

/-- Nothing that is left out of a joined shape, or unwrapped in it, decides what it accepts. -/
theorem isValid_join_eq {p : NodeParts Shape} {alls anys ones : List Shape} {negated : Option Shape} :
    isValid c (join f p alls anys ones negated) v =
      isValid c (.allOf (.simple f p :: composition alls anys ones negated)) v := by
  rw [join_eq]
  split
  next none => simp [none]
  next first rest parts =>
    rw [parts]
    by_cases silent : saysNothing f p = true
    · have node : isValid c (.simple f p) v = true := isValid_of_saysNothing silent
      by_cases lone : (rest.isEmpty && alls.isEmpty) = true
      · obtain ⟨none, noAll⟩ : rest = [] ∧ alls = [] := by simpa using lone
        simp [silent, node, none, noAll]
      · simp [silent, lone, node]
    · simp [silent]

/-- What all parts of a composition accept. -/
theorem forall_composition_iff {alls anys ones : List Shape} {negated : Option Shape} :
    (∀ s ∈ composition alls anys ones negated, isValid c s v = true) ↔
      (∀ s ∈ alls, isValid c s v = true) ∧ (anys ≠ [] → isValid c (.anyOf anys) v = true) ∧
      (ones ≠ [] → isValid c (.oneOf ones) v = true) ∧ ∀ s, negated = some s → isValid c (.not s) v = true := by
  cases anys <;> cases ones <;> cases negated <;> simp [composition, or_imp, forall_and]

/-- A joined shape accepts what the node and all parts of the composition accept. -/
theorem isValid_join {p : NodeParts Shape} {alls anys ones : List Shape} {negated : Option Shape} :
    isValid c (join f p alls anys ones negated) v = true ↔
      isValid c (.simple f p) v = true ∧ (∀ s ∈ alls, isValid c s v = true) ∧
      (anys ≠ [] → isValid c (.anyOf anys) v = true) ∧
      (ones ≠ [] → isValid c (.oneOf ones) v = true) ∧ ∀ s, negated = some s → isValid c (.not s) v = true := by
  rw [isValid_join_eq, isValid_allOf, List.all_eq_true, List.forall_mem_cons, forall_composition_iff]

/-- Joining looser parts gives a looser shape. -/
theorem Looser.join {p q : NodeParts Shape} {alls anys ones alls' anys' ones' : List Shape}
    {negated negated' : Option Shape} (node : NodeParts.Rel Looser p q)
    (all : List.Forall₂ Looser alls alls') (any : List.Forall₂ Looser anys anys')
    (one : List.Forall₂ Looser ones ones') (no : Option.Rel Looser negated negated') :
    Looser (Shape.join f p alls anys ones negated) (Shape.join f q alls' anys' ones' negated') := by
  have parts : List.Forall₂ Looser (composition alls anys ones negated)
      (composition alls' anys' ones' negated') := by
    refine List.rel_append (List.rel_append (List.rel_append all ?_) ?_) ?_
    · cases any with
      | nil => exact .nil
      | cons head rest => exact .cons (.anyOf (.cons head rest)) .nil
    · cases one with
      | nil => exact .nil
      | cons head rest => exact .cons (.oneOf (.cons head rest)) .nil
    · cases no with
      | none => exact .nil
      | some same => exact .cons (.not same) .nil
  have silent : saysNothing f p = saysNothing f q := by
    obtain ⟨items, properties, additional⟩ := node
    simp only [saysNothing]
    cases items <;> cases properties <;> cases additional <;> rfl
  have empty : alls.isEmpty = alls'.isEmpty := by cases all <;> rfl
  rw [join_eq, join_eq, silent, empty]
  generalize composition alls anys ones negated = ps at parts
  generalize composition alls' anys' ones' negated' = qs at parts
  cases parts with
  | nil => exact .simple node
  | @cons _ _ tail tail' head rest =>
    have lone : tail.isEmpty = tail'.isEmpty := by cases rest <;> rfl
    simp only [lone]
    split
    · exact .allOf (.cons (.simple node) (.cons head rest))
    · split
      · exact head
      · exact .allOf (.cons head rest)

def facetsOf (k : Keywords) (parts : Subschemas SchemaRef) : Facets :=
  k.facets (!parts.properties.isEmpty || parts.additionalProperties.isSome) parts.items.isSome

def nodeOf (parts : Subschemas SchemaRef) : NodeParts Shape :=
  ⟨parts.items.map ofRef, parts.properties.map fun p => (p.1, ofRef p.2),
    ofAdditional parts.additionalProperties⟩

theorem ofRef_inline (k : Keywords) (parts : Subschemas SchemaRef) :
    ofRef (.inline k parts) = join (facetsOf k parts) (nodeOf parts) (parts.allOf.map ofRef)
      (parts.anyOf.map ofRef) (parts.oneOf.map ofRef) (parts.not.map ofRef) := by
  obtain ⟨properties, additional, items, alls, ones, anys, negated⟩ := parts
  simp only [ofRef, ofParts, ofList_eq, ofTable_eq, ofOption_eq, facetsOf, nodeOf]

/-- A schema accepts a value by each of its keywords. -/
theorem isValid_inline {k : Keywords} {parts : Subschemas SchemaRef} :
    isValid c (ofRef (.inline k parts)) v = true ↔
      isValid c (.simple (facetsOf k parts) {}) v = true ∧
      (nodeOf parts).Admits (fun s w => isValid c s w = true) v ∧
      (∀ s ∈ parts.allOf, isValid c (ofRef s) v = true) ∧
      (parts.anyOf ≠ [] → ∃ s ∈ parts.anyOf, isValid c (ofRef s) v = true) ∧
      (parts.oneOf ≠ [] → (parts.oneOf.countP fun s => isValid c (ofRef s) v) = 1) ∧
      ∀ s, parts.not = some s → isValid c (ofRef s) v = false := by
  rw [ofRef_inline, isValid_join, isValid_simple]
  simp [and_assoc, List.countP_map, Function.comp_def]

end Shape

namespace Subschemas.Rel

variable {R : SchemaRef → SchemaRef → Prop} {p q : Subschemas SchemaRef}

theorem facetsOf_eq (related : Subschemas.Rel R p q) (k : Keywords) :
    Shape.facetsOf k q = Shape.facetsOf k p := by
  obtain ⟨properties, additional, items, -, -, -, -⟩ := related
  cases properties <;> cases additional <;> cases items <;> rfl

theorem nodeOf {S : Shape → Shape → Prop} (related : Subschemas.Rel R p q)
    (lower : ∀ s t, R s t → S (Shape.ofRef t) (Shape.ofRef s)) :
    NodeParts.Rel S (Shape.nodeOf q) (Shape.nodeOf p) := by
  obtain ⟨properties, additional, items, -, -, -, -⟩ := related
  refine .mk ?_ ?_ ?_
  · cases items with
    | none => exact .none
    | some same => exact .some (lower _ _ same)
  · refine List.rel_map (fun b a same => ?_) properties.flip
    obtain ⟨same⟩ := same
    exact .mk (lower _ _ same)
  · cases additional with
    | none => exact .allowed
    | some same =>
      cases same with
      | flag b => cases b <;> constructor
      | schema same => exact .shape (lower _ _ same)

end Subschemas.Rel

namespace SchemaRef

/-- The second schema is the first one with any schemas in the place of references. -/
inductive Fills : SchemaRef → SchemaRef → Prop
  | ref (path s) : Fills (.ref path) s
  | inline {keywords parts parts'} : Subschemas.Rel Fills parts parts' →
    Fills (.inline keywords parts) (.inline keywords parts')

inductive Entangled : SchemaRef → Prop
  | oneOf {keywords parts s path} : s ∈ parts.oneOf → Mentions s path →
    Entangled (.inline keywords parts)
  | not {keywords parts s path} : parts.not = some s → Mentions s path →
    Entangled (.inline keywords parts)
  | part {keywords parts s} : s ∈ parts.toList → Entangled s → Entangled (.inline keywords parts)

variable {s s' : SchemaRef} {c : Shape.Checks} {v : Json}

theorem Fills.eq_of_not_mentions (s : SchemaRef) : ∀ s', Fills s s' →
    (∀ path, ¬ s.Mentions path) → s' = s := by
  induction s using induct with
  | ref path => exact fun s' _ silent => absurd (.ref path) (silent path)
  | inline keywords parts ih =>
    rintro s' fills silent
    cases fills with
    | inline related =>
      rw [related.eq_of_mem fun s member t fills =>
        ih s member t fills fun path inside => silent path (.part member inside)]

theorem Fills.looser (s : SchemaRef) : ∀ s', Fills s s' →
    Shape.Looser (Shape.ofRef s') (Shape.ofRef s) := by
  induction s using induct with
  | ref path => exact fun s' _ => .any _
  | inline keywords parts ih =>
    rintro s' fills
    cases fills with
    | @inline _ _ parts' related =>
      have looser := related.imp_of_mem (S := fun s t => Shape.Looser (Shape.ofRef t) (Shape.ofRef s)) ih
      have node := looser.nodeOf (S := Shape.Looser) fun _ _ same => same
      rw [Shape.ofRef_inline, Shape.ofRef_inline, looser.facetsOf_eq]
      obtain ⟨-, -, -, allOf, oneOf, anyOf, not⟩ := looser
      have lowered {ss ts : List SchemaRef}
          (related : List.Forall₂ (fun s t => Shape.Looser (Shape.ofRef t) (Shape.ofRef s)) ss ts) :
          List.Forall₂ Shape.Looser (ts.map Shape.ofRef) (ss.map Shape.ofRef) :=
        List.forall₂_map_left_iff.mpr (List.forall₂_map_right_iff.mpr related.flip)
      refine .join node (lowered allOf) (lowered anyOf) (lowered oneOf) ?_
      cases not with
      | none => exact .none
      | some same => exact .some same

/-- What a filled schema accepts the schema accepts, if no reference in it is entangled. -/
theorem Fills.isValid (s : SchemaRef) : ∀ s' v, Fills s s' → ¬ s.Entangled →
    Shape.isValid c (Shape.ofRef s') v = true → Shape.isValid c (Shape.ofRef s) v = true := by
  induction s using induct with
  | ref path => exact fun s' v _ _ _ => Shape.isValid_any
  | inline keywords parts ih =>
    rintro s' v fills free accepted
    cases fills with
    | @inline _ _ parts' related =>
      have kept := related.imp_of_mem
        (S := fun s t => ∀ w, Shape.isValid c (Shape.ofRef t) w = true →
          Shape.isValid c (Shape.ofRef s) w = true)
        fun s member t fills w => ih s member t w fills fun bad => free (.part member bad)
      have node := kept.nodeOf (S := fun a b => ∀ w, Shape.isValid c a w = true →
        Shape.isValid c b w = true) fun _ _ same => same
      rw [Shape.isValid_inline] at accepted ⊢
      rw [kept.facetsOf_eq] at accepted
      obtain ⟨-, -, -, -, oneFills, -, notFills⟩ := related
      obtain ⟨-, -, -, allOf, -, anyOf, -⟩ := kept
      obtain ⟨facets, admitted, all, any, one, no⟩ := accepted
      refine ⟨facets, node.admits admitted, fun s member => ?_, fun some => ?_, ?_, ?_⟩
      · obtain ⟨s', pair, keeps⟩ := exists_partner allOf member
        exact keeps v (all s' (List.of_mem_zip pair).2)
      · obtain ⟨s', inside, matched⟩ := any (mt (fun none => by simp_all) some)
        obtain ⟨s, pair, keeps⟩ := exists_pair anyOf inside
        exact ⟨s, (List.of_mem_zip pair).1, keeps v matched⟩
      · have same := forall₂_eq_of_mem oneFills fun s member t fills =>
          eq_of_not_mentions s t fills fun path inside => free (.oneOf member inside)
        exact same ▸ one
      · have same := optionRel_eq_of_mem notFills fun s member t fills =>
          eq_of_not_mentions s t fills fun path inside => free (.not member inside)
        exact same ▸ no

/-- What a filled schema accepts, the schema with the references accepts unless they upset a `oneOf` or a
`not` that accepts the value. None does if no reference is entangled. -/
theorem Fills.accepts_unfilled_iff (fills : Fills s s')
    (accepted : Shape.isValid c (Shape.ofRef s') v = true) :
    (Shape.isValid c (Shape.ofRef s) v = true ↔
      ¬ Shape.Backfires c c (Shape.ofRef s') (Shape.ofRef s) v) ∧
    (¬ s.Entangled → Shape.isValid c (Shape.ofRef s) v = true) :=
  ⟨Shape.isValid_iff_not_backfires (.refl c) (Fills.looser s s' fills) accepted,
    fun free => Fills.isValid s s' v fills free accepted⟩

def listNode (tail : SchemaRef) : SchemaRef :=
  .inline { type := some (.one .object) } { properties := [("next", .inline {}
    { oneOf := [tail, .inline { type := some (.one .null) } {}] })] }

def cutNode : SchemaRef := listNode (.ref "#/components/schemas/Node")

def fullNode : SchemaRef := listNode (.inline { type := some (.one .object) } {})

theorem fills_cutNode : Fills cutNode fullNode := by
  refine .inline (.mk (.cons (.mk (.inline (.mk .nil .none .none .nil (.cons (.ref _ _) (.cons ?_ .nil))
    .nil .none))) .nil) .none .none .nil .nil .nil .none)
  exact .inline (.mk .nil .none .none .nil .nil .nil .none)

theorem accepts_unfilled_iff_cutNode :
    Shape.isValid {} (Shape.ofRef fullNode) (.obj [("next", .obj [])]) = true ∧
    (Shape.isValid {} (Shape.ofRef cutNode) (.obj [("next", .obj [])]) = true ↔
      ¬ Shape.Backfires {} {} (Shape.ofRef fullNode) (Shape.ofRef cutNode)
        (.obj [("next", .obj [])])) := by
  have accepted : Shape.isValid {} (Shape.ofRef fullNode) (.obj [("next", .obj [])]) = true := by
    decide
  exact ⟨accepted, (fills_cutNode.accepts_unfilled_iff accepted).1⟩

/-- The last node of a list, with null for its tail, is accepted only as long as the reference is
filled. -/
theorem last_node_rejected : ¬ ∀ (s s' : SchemaRef) (c : Shape.Checks) (v : Json), s.Fills s' →
    Shape.isValid c (Shape.ofRef s') v = true → Shape.isValid c (Shape.ofRef s) v = true := by
  intro claim
  have kept := claim cutNode fullNode {} (.obj [("next", .null)]) fills_cutNode
    (by decide)
  exact absurd kept (by decide)

end SchemaRef
end ApiAtlas
