import ApiAtlas.Proofs.Json.Sorted
import ApiAtlas.Proofs.Shape.Conversion
import ApiAtlas.Shape.Example

/-! Values that are made for a shape in which no example is declared. A node is given a value of its type as long
as it stands inside fewer arrays and objects than values are made for, and an object is given all of its declared
members. So the shape accepts the value, but for its bounds and formats. -/
namespace ApiAtlas.Shape

/-- Nodes and `anyOf` compositions with at least one part, at every depth. No node declares an example or requires
a member that it does not declare, and its table of members has a key once. -/
inductive Makeable : Shape → Prop
  | anyOf {parts} : parts ≠ [] → (∀ s ∈ parts, Makeable s) → Makeable (.anyOf parts)
  | simple {f parts} : declaredExample f = none → (Table.keys parts.properties).Nodup →
    (∀ name ∈ f.required, name ∈ Table.keys parts.properties) →
    (∀ s, parts.Holds s → Makeable s) → Makeable (.simple f parts)

mutual
/-- How many arrays and objects stand inside one another at most. -/
def nesting : Shape → Nat
  | .allOf parts | .anyOf parts | .oneOf parts => nestingOfList parts
  | .not part => nesting part
  | .simple f parts =>
    nestingOfParts parts + if f.type = some .array ∨ f.type = some .object then 1 else 0
def nestingOfParts : NodeParts Shape → Nat
  | ⟨items, properties, additional⟩ =>
    max (nestingOfOption items) (max (nestingOfTable properties) (nestingOfAdditional additional))
def nestingOfList : List Shape → Nat
  | [] => 0
  | s :: rest => max (nesting s) (nestingOfList rest)
def nestingOfOption : Option Shape → Nat
  | none => 0
  | some s => nesting s
def nestingOfTable : List (String × Shape) → Nat
  | [] => 0
  | (_, s) :: rest => max (nesting s) (nestingOfTable rest)
def nestingOfAdditional : Additional Shape → Nat
  | .allowed | .denied => 0
  | .shape s => nesting s
end

variable {s : Shape} {f : Facets} {parts : NodeParts Shape} {v : Json} {depth : Nat}

theorem nesting_le_of_mem {parts : List Shape} (member : s ∈ parts) : s.nesting ≤ nestingOfList parts := by
  induction parts with
  | nil => contradiction
  | cons t rest ih =>
    rw [nestingOfList]
    rcases List.mem_cons.mp member with rfl | later
    · exact le_max_left _ _
    · exact le_max_of_le_right (ih later)

theorem nestingOfTable_eq (properties : List (String × Shape)) :
    nestingOfTable properties = nestingOfList (properties.map Prod.snd) := by
  induction properties with
  | nil => rfl
  | cons p rest ih => rw [nestingOfTable, ih]; rfl

/-- The parts of a node do not nest deeper than the parts together. -/
theorem nesting_le_of_holds (held : parts.Holds s) : s.nesting ≤ nestingOfParts parts := by
  obtain ⟨items, properties, additional⟩ := parts
  rw [nestingOfParts]
  rcases held with found | ⟨key, member⟩ | found
  · cases found
    exact le_max_left _ _
  · rw [nestingOfTable_eq]
    have inside : s ∈ properties.map Prod.snd := List.mem_map_of_mem (f := Prod.snd) member
    exact le_max_of_le_right (le_max_of_le_left (nesting_le_of_mem inside))
  · cases found
    exact le_max_of_le_right (le_max_right _ _)

/-- The members that are made are those declared. -/
theorem exampleTable_eq (properties : List (String × Shape)) (depth : Nat) :
    exampleTable properties depth = properties.map fun p => (p.1, exampleAt p.2 depth) := by
  induction properties with
  | nil => rfl
  | cons p rest ih => rw [exampleTable, ih]; rfl

/-- What the facets ask when constraints are not checked: the type, and of an object the required members. -/
theorem isValid_outline_iff (present : v.isNull = false) :
    isValid { constraints := false } (.simple f {}) v = true ↔ f.type.all (Json.hasType · v) = true ∧
      ∀ members, v = .obj members → ∀ name ∈ f.required, name ∈ Table.keys members := by
  rw [isValid_facets_iff present]
  refine and_congr_right fun _ => ?_
  cases v with
  | obj members =>
    have undeclared : (members.flatMap fun m => memberIssues {} [] m.1 m.2) = [] :=
      List.flatMap_eq_nil_iff.mpr fun _ _ => rfl
    simp [contentIssues, undeclared, missingIssues, demand_eq_nil_iff, List.lookup_isSome_iff, Table.keys]
  | _ => simp [contentIssues]

/-- An array of the value that is made for its items. -/
theorem isValid_itemExample (array : f.type = some .array)
    (made : ∀ s, parts.Holds s → isValid { constraints := false } s (exampleAt s depth) = true) :
    isValid { constraints := false } (.simple f parts) (itemExample parts depth) = true := by
  obtain ⟨items, admitted⟩ : ∃ items, itemExample parts depth = .arr items ∧
      ∀ s, parts.items = some s → ∀ w ∈ items, isValid { constraints := false } s w = true := by
    obtain ⟨_ | s, properties, additional⟩ := parts
    · exact ⟨[], rfl, by simp⟩
    · refine ⟨[exampleAt s depth], rfl, ?_⟩
      rintro _ ⟨⟩ w member
      rw [List.mem_singleton.mp member]
      exact made s (.inl rfl)
  rw [admitted.1, isValid_simple, isValid_outline_iff rfl, array]
  exact ⟨⟨rfl, by simp⟩, admitted.2⟩

/-- An object of the values that are made for its declared members. -/
theorem isValid_memberExample (object : f.type = some .object)
    (distinct : (Table.keys parts.properties).Nodup)
    (declared : ∀ name ∈ f.required, name ∈ Table.keys parts.properties)
    (made : ∀ s, parts.Holds s → isValid { constraints := false } s (exampleAt s depth) = true) :
    isValid { constraints := false } (.simple f parts) (memberExample parts depth) = true := by
  have whole : memberExample parts depth =
      .obj (Json.sortMembers (parts.properties.map fun p => (p.1, exampleAt p.2 depth))) := by
    obtain ⟨items, properties, additional⟩ := parts
    exact congrArg (fun members => Json.obj (Json.sortMembers members)) (exampleTable_eq properties depth)
  rw [whole, isValid_simple, isValid_outline_iff rfl, object]
  refine ⟨⟨rfl, ?_⟩, fun _ _ member => ?_⟩
  · rintro _ ⟨⟩ name required
    refine Json.mem_keys_sortMembers.mpr ?_
    rw [List.map_map]
    exact declared name required
  · obtain ⟨⟨key, s⟩, listed, same⟩ := List.mem_map.mp (Json.mem_sortMembers member)
    obtain ⟨rfl, rfl⟩ := Prod.mk.inj same
    have declared : parts.properties.lookup key = some s := (Table.get?_eq_some_iff distinct).mpr listed
    have found : parts.rule key = .shape s := by simp only [NodeParts.rule, declared]
    rw [found]
    refine ⟨by simp, ?_⟩
    rintro _ ⟨⟩
    exact made s (NodeParts.holds_of_rule found)

/-- A value that is made at a level of nesting is accepted if the shape does not go on deeper than values are made. -/
theorem isValid_exampleAt (makeable : s.Makeable) (shallow : depth + s.nesting < exampleDepth) :
    isValid { constraints := false } s (exampleAt s depth) = true := by
  -- The depth grows only into an array or an object, where the nesting of what is inside is less by one.
  induction makeable generalizing depth with
  | @anyOf parts some _ ih =>
    obtain ⟨first, rest, rfl⟩ := List.exists_cons_of_ne_nil some
    have below : first.nesting ≤ (Shape.anyOf (first :: rest)).nesting := nesting_le_of_mem List.mem_cons_self
    rw [isValid_anyOf, List.any_cons, Bool.or_eq_true]
    exact .inl (ih first List.mem_cons_self (by omega))
  | @simple f parts undeclared distinct declared _ ih =>
    have here : ¬ exampleDepth ≤ depth := by omega
    have inside {s : Shape} (held : parts.Holds s) (nested : f.type = some .array ∨ f.type = some .object) :
        depth + 1 + s.nesting < exampleDepth := by
      have below := nesting_le_of_holds held
      rw [nesting, if_pos nested] at shallow
      omega
    rw [exampleAt, undeclared]
    simp only [here, if_false]
    cases type : f.type with
    | none => simp [isValid_null, admitsNull, type]
    | some t =>
      cases t with
      | null => simp [isValid_null, admitsNull, type]
      | array => exact isValid_itemExample type fun s held => ih s held (inside held (.inl type))
      | object =>
        exact isValid_memberExample type distinct declared fun s held => ih s held (inside held (.inr type))
      | string | integer | number | boolean =>
        refine isValid_simple.mpr ⟨(isValid_outline_iff rfl).mpr ⟨?_, by simp [Json.int]⟩, trivial⟩
        rw [type]
        rfl

/-- A shape accepts the value made for it, but for constraints, if its arrays and objects nest less deep than values
are made. -/
theorem accepts_sample (makeable : s.Makeable) (shallow : s.nesting < exampleDepth) :
    isValid { constraints := false } s s.sample = true :=
  isValid_exampleAt makeable (by omega)

/-- What stands inside as many arrays and objects as values are made for is null. -/
theorem exampleAt_deep (makeable : s.Makeable) (deep : exampleDepth ≤ depth) : exampleAt s depth = .null := by
  induction makeable with
  | @anyOf parts some _ ih =>
    obtain ⟨first, rest, rfl⟩ := List.exists_cons_of_ne_nil some
    exact ih first List.mem_cons_self
  | @simple f parts undeclared =>
    rw [exampleAt, undeclared]
    simp only [deep, if_true]

/-- So a text inside eight arrays is too deep. -/
example : let s := Nat.repeat (fun s => simple { type := some .array } { items := some s }) 8 (ofType .string)
    s.nesting = exampleDepth ∧ isValid { constraints := false } s s.sample = false := by decide

def ware : Shape := .simple { type := some .object, required := ["price"] }
  { properties := [("price", ofType .number)], additional := .denied }

def wares : Shape := .simple { type := some .array, minItems := some 2 }
  { items := some (.anyOf [ware, ofType .string]) }

def stall : Shape := .simple { type := some .object, required := ["wares", "open"] }
  { properties := [("open", ofType .boolean), ("wares", wares)], additional := .shape (ofType .string) }

/-- The list is made with one ware. That is not enough, but it is the only fault. -/
theorem stall_sample_accepted : stall.nesting = 3 ∧ isValid { constraints := false } stall stall.sample = true ∧
    isValid {} stall stall.sample = false := by
  have plain (t : TypeName) : (ofType t).Makeable :=
    .simple rfl List.nodup_nil (by simp) (by simp [NodeParts.Holds])
  have ware : ware.Makeable := .simple rfl (by decide) (by decide) (by simp [NodeParts.Holds, plain])
  have choice : (Shape.anyOf [Shape.ware, ofType .string]).Makeable := .anyOf (by simp) (by simp [plain, ware])
  have wares : wares.Makeable := .simple rfl List.nodup_nil (by simp) (by simpa [NodeParts.Holds])
  have makeable : stall.Makeable :=
    .simple rfl (by decide) (by decide) (by simp [NodeParts.Holds, plain, wares, or_imp, forall_and])
  exact ⟨rfl, accepts_sample makeable (by decide), by decide⟩

end ApiAtlas.Shape
