import ApiAtlas.Proofs.Table
import ApiAtlas.Shape.Check
import Mathlib.Data.List.Basic

/-! What a shape accepts, without the issues. A value is valid against a composition by the verdicts
of its parts alone, and against a node if the facets admit it and every item and member passes the
shape that the node has for it. The place at which a check starts moves what it reports, and nothing else. -/
namespace ApiAtlas

/-! The parts of a node. -/
section Parts

variable {α β : Type}

def Additional.map (g : α → β) : Additional α → Additional β
  | .allowed => .allowed
  | .denied => .denied
  | .shape a => .shape (g a)

namespace NodeParts

def map (g : α → β) (parts : NodeParts α) : NodeParts β where
  items := parts.items.map g
  properties := parts.properties.map fun p => (p.1, g p.2)
  additional := parts.additional.map g

/-- The part of a node for its items, for a member, or for undeclared members. -/
def Holds (parts : NodeParts α) (a : α) : Prop :=
  parts.items = some a ∨ (∃ key, (key, a) ∈ parts.properties) ∨ parts.additional = .shape a

/-- What a node asks of the member under a key. -/
def rule (parts : NodeParts α) (key : String) : Additional α :=
  match parts.properties.lookup key with
  | some a => .shape a
  | none => parts.additional

/-- Every item and member of a value passes what the node asks of it. -/
def Admits (parts : NodeParts α) (ok : α → Json → Prop) : Json → Prop
  | .arr items => ∀ a, parts.items = some a → ∀ w ∈ items, ok a w
  | .obj members => ∀ key w, (key, w) ∈ members →
    parts.rule key ≠ .denied ∧ ∀ a, parts.rule key = .shape a → ok a w
  | _ => True

theorem holds_of_rule {parts : NodeParts α} {key : String} {a : α}
    (found : parts.rule key = .shape a) : parts.Holds a := by
  unfold rule at found
  split at found
  next b declared =>
    obtain ⟨before, after, whole, -⟩ := List.lookup_eq_some_iff.mp declared
    cases found
    exact .inr (.inl ⟨key, by simp [whole]⟩)
  next => exact .inr (.inr found)

theorem holds_map {g : α → β} {parts : NodeParts α} {b : β} (held : (parts.map g).Holds b) :
    ∃ a, parts.Holds a ∧ g a = b := by
  rcases held with found | ⟨key, found⟩ | found
  · obtain ⟨a, inside, same⟩ := Option.map_eq_some_iff.mp found
    exact ⟨a, .inl inside, same⟩
  · obtain ⟨⟨k, a⟩, inside, same⟩ := List.mem_map.mp found
    exact ⟨a, .inr (.inl ⟨k, inside⟩), (Prod.mk.inj same).2⟩
  · cases inside : parts.additional with
    | shape a =>
      simp only [map, inside, Additional.map, Additional.shape.injEq] at found
      exact ⟨a, .inr (.inr inside), found⟩
    | _ => simp [map, inside, Additional.map] at found

theorem rule_map (g : α → β) (parts : NodeParts α) (key : String) :
    (parts.map g).rule key = (parts.rule key).map g := by
  simp only [rule, map, Table.lookup_map]
  cases parts.properties.lookup key <;> rfl

theorem admits_map (g : α → β) (parts : NodeParts α) (ok : β → Json → Prop) (v : Json) :
    (parts.map g).Admits ok v ↔ parts.Admits (fun a w => ok (g a) w) v := by
  cases v with
  | arr items => simp [Admits, map]
  | obj members =>
    simp only [Admits, rule_map]
    refine forall_congr' fun key => forall_congr' fun w => imp_congr_right fun _ => ?_
    cases parts.rule key <;> simp [Additional.map]
  | _ => rfl

end NodeParts
end Parts

/-- An issue of a part, seen from further outside. -/
def Issue.below (place : Path) (issue : Issue) : Issue := { issue with path := place ++ issue.path }

namespace Shape

/-- Induction over the parts of shapes. -/
@[elab_as_elim]
theorem induct {motive : Shape → Prop}
    (allOf : ∀ parts, (∀ s ∈ parts, motive s) → motive (.allOf parts))
    (anyOf : ∀ parts, (∀ s ∈ parts, motive s) → motive (.anyOf parts))
    (oneOf : ∀ parts, (∀ s ∈ parts, motive s) → motive (.oneOf parts))
    (not : ∀ part, motive part → motive (.not part))
    (simple : ∀ f parts, (∀ s, parts.Holds s → motive s) → motive (.simple f parts))
    (s : Shape) : motive s := by
  refine @Shape.rec motive (fun parts => ∀ s ∈ parts, motive s)
    (fun parts => ∀ s, parts.Holds s → motive s)
    (fun part => ∀ s, part = some s → motive s)
    (fun properties => ∀ key s, (key, s) ∈ properties → motive s)
    (fun additional => ∀ s, additional = .shape s → motive s)
    (fun p => motive p.2)
    allOf anyOf oneOf not simple ?nil ?cons ?parts (fun _ absent => nomatch absent) ?some
    ?noProperty ?property (fun _ absent => nomatch absent) (fun _ absent => nomatch absent) ?shape
    (fun _ _ proof => proof) s
  case nil => exact fun _ absent => absurd absent List.not_mem_nil
  case cons =>
    intro head tail first rest s member
    rcases List.mem_cons.mp member with rfl | member
    · exact first
    · exact rest s member
  case parts =>
    intro items properties additional ofItems ofProperties ofAdditional s held
    rcases held with found | ⟨key, found⟩ | found
    · exact ofItems s found
    · exact ofProperties key s found
    · exact ofAdditional s found
  case some => rintro s proof t ⟨⟩; exact proof
  case noProperty => exact fun _ _ absent => absurd absent List.not_mem_nil
  case property =>
    intro head tail first rest key s member
    rcases List.mem_cons.mp member with rfl | member
    · exact first
    · exact rest key s member
  case shape => rintro s proof t ⟨⟩; exact proof

variable {c : Checks} {f : Facets} {v : Json} {place path : Path} {kind : IssueKind}

attribute [local simp] issues

theorem listIssues_eq (c : Checks) (parts : List Shape) : listIssues c parts = parts.map (issues c) := by
  induction parts with
  | nil => rfl
  | cons s rest ih => rw [listIssues, ih]; rfl

theorem partIssues_eq (c : Checks) (parts : NodeParts Shape) : partIssues c parts = parts.map (issues c) := by
  obtain ⟨items, properties, additional⟩ := parts
  have tables : tableIssues c properties = properties.map fun p => (p.1, issues c p.2) := by
    induction properties with
    | nil => rfl
    | cons p rest ih => rw [tableIssues, ih]; rfl
  rw [partIssues, tables]
  cases items <;> cases additional <;> rfl

/-- A member is checked by the rule for its key. -/
theorem memberIssues_eq {parts : NodeParts Checker} {key : String} :
    memberIssues parts path key v = match parts.rule key with
      | .allowed => []
      | .denied => [⟨path ++ [.key key], .additionalProperty,
          "additional property " ++ key ++ " is not allowed"⟩]
      | .shape check => check v (path ++ [.key key]) := by
  unfold memberIssues NodeParts.rule
  cases parts.properties.lookup key <;> rfl

/-! What a check reports moves along with its place. -/

def Movable (check : Checker) : Prop :=
  ∀ v place path, check v (place ++ path) = (check v path).map (Issue.below place)

theorem demand_below {ok : Bool} {message : String} :
    demand ok (place ++ path) kind message = (demand ok path kind message).map (.below place) := by
  cases ok <;> rfl

theorem limit_below {α : Type} {bound : Option α} {keeps : α → Bool} {message : α → String} :
    limit bound keeps (place ++ path) kind message = (limit bound keeps path kind message).map (.below place) := by
  cases bound with
  | none => rfl
  | some b => exact demand_below

theorem missingIssues_below {members : List (String × Json)} :
    missingIssues f members (place ++ path) = (missingIssues f members path).map (.below place) := by
  simp only [missingIssues, List.map_flatMap, List.append_assoc, demand_below]

theorem itemIssues_below {check : Checker} (movable : Movable check) {i : Nat} {items : List Json} :
    itemIssues check (place ++ path) i items = (itemIssues check path i items).map (.below place) := by
  induction items generalizing i with
  | nil => rfl
  | cons w rest ih => rw [itemIssues, itemIssues, List.append_assoc, movable, ih, List.map_append]

section Parts

variable {parts : NodeParts Checker} (movable : ∀ check, parts.Holds check → Movable check)

include movable

theorem memberIssues_below {key : String} :
    memberIssues parts (place ++ path) key v = (memberIssues parts path key v).map (.below place) := by
  rw [memberIssues_eq, memberIssues_eq]
  cases rule : parts.rule key with
  | allowed => rfl
  | denied => simp [Issue.below]
  | shape check =>
    simp only [List.append_assoc]
    exact movable check (NodeParts.holds_of_rule rule) v place _

theorem contentIssues_below :
    contentIssues c f parts v (place ++ path) = (contentIssues c f parts v path).map (.below place) := by
  cases v with
  | str text => cases asked : c.constraints <;> simp [contentIssues, asked, stringIssues, limit_below]
  | num n => cases asked : c.constraints <;> simp [contentIssues, asked, numberIssues, limit_below]
  | arr items =>
    have counts : (if c.constraints then itemCountIssues f items (place ++ path) else []) =
        (if c.constraints then itemCountIssues f items path else []).map (.below place) := by
      cases c.constraints <;> simp [itemCountIssues, limit_below, demand_below]
    rw [contentIssues, contentIssues, counts, List.map_append]
    cases found : parts.items with
    | none => rfl
    | some check =>
      simp only
      rw [itemIssues_below (movable check (.inl found))]
  | obj members =>
    have missing : (if c.required then missingIssues f members (place ++ path) else []) =
        (if c.required then missingIssues f members path else []).map (.below place) := by
      cases c.required <;> simp [missingIssues_below]
    simp only [contentIssues, missing, List.map_append, List.map_flatMap, memberIssues_below movable]
  | _ => rfl

theorem nodeIssues_below :
    nodeIssues c f parts v (place ++ path) = (nodeIssues c f parts v path).map (.below place) := by
  have listed : (if c.constraints && !f.enum.isEmpty then
        demand (f.enum.any (·.same v)) (place ++ path) .enum ("must be one of " ++ Json.renderAll f.enum)
      else []) = (if c.constraints && !f.enum.isEmpty then
        demand (f.enum.any (·.same v)) path .enum ("must be one of " ++ Json.renderAll f.enum)
      else []).map (.below place) := by
    split
    · exact demand_below
    · rfl
  unfold nodeIssues
  split
  · split <;> rfl
  · split
    · rfl
    · rw [listed, contentIssues_below movable, List.map_append]

end Parts

theorem movable_issues (c : Checks) (s : Shape) : Movable (issues c s) := by
  induction s using induct with
  | allOf parts ih =>
    intro v place path
    simp only [issues, listIssues_eq, List.flatMap_map, List.map_flatMap]
    exact List.flatMap_congr fun s member => ih s member v place path
  | anyOf parts | oneOf parts | not part => exact fun v place path => demand_below
  | simple f parts ih =>
    intro v place path
    rw [issues, issues]
    refine nodeIssues_below fun check held => ?_
    obtain ⟨s, inside, rfl⟩ := NodeParts.holds_map (partIssues_eq c parts ▸ held)
    exact ih s inside

/-- A check finds the same issues wherever it starts. -/
theorem issues_eq (c : Checks) (s : Shape) (v : Json) (path : Path) :
    issues c s v path = (validate c s v).map (.below path) := by
  simpa [validate] using movable_issues c s v path []

/-! What it takes to have no issues. -/

theorem demand_eq_nil_iff {ok : Bool} {kind : IssueKind} {message : String} :
    demand ok path kind message = [] ↔ ok = true := by
  cases ok <;> simp [demand]

theorem limit_eq_nil_iff {α : Type} {bound : Option α} {keeps : α → Bool} {kind : IssueKind}
    {message : α → String} : limit bound keeps path kind message = [] ↔ ∀ b, bound = some b → keeps b = true := by
  cases bound <;> simp [limit, demand_eq_nil_iff]

theorem memberIssues_eq_nil_iff {parts : NodeParts Checker} {key : String} :
    memberIssues parts path key v = [] ↔ parts.rule key ≠ .denied ∧
      ∀ check, parts.rule key = .shape check → check v (path ++ [.key key]) = [] := by
  rw [memberIssues_eq]
  cases parts.rule key <;> simp

theorem itemIssues_eq_nil_iff {check : Checker} {items : List Json} {i : Nat}
    (anywhere : ∀ w p q, check w p = [] ↔ check w q = []) :
    itemIssues check path i items = [] ↔ ∀ w ∈ items, check w [] = [] := by
  induction items generalizing i with
  | nil => simp [itemIssues]
  | cons w rest ih => simp [itemIssues, ih, anywhere w _ []]

theorem members_eq_nil_iff {parts : NodeParts Checker} {members : List (String × Json)}
    (anywhere : ∀ check, parts.Holds check → ∀ w p q, check w p = [] ↔ check w q = []) :
    (members.flatMap fun (key, w) => memberIssues parts path key w) = [] ↔
      parts.Admits (fun check w => check w [] = []) (.obj members) := by
  simp only [List.flatMap_eq_nil_iff, Prod.forall, memberIssues_eq_nil_iff, NodeParts.Admits]
  refine forall_congr' fun key => forall_congr' fun w => imp_congr_right fun _ => ?_
  refine and_congr_right fun _ => forall_congr' fun check => imp_congr_right fun found => ?_
  exact anywhere check (NodeParts.holds_of_rule found) w _ []

/-- A node has no issues if it has none without its parts and the parts have none. -/
theorem nodeIssues_eq_nil_iff {parts : NodeParts Checker}
    (anywhere : ∀ check, parts.Holds check → ∀ w p q, check w p = [] ↔ check w q = []) :
    nodeIssues c f parts v path = [] ↔
      nodeIssues c f {} v [] = [] ∧ parts.Admits (fun check w => check w [] = []) v := by
  unfold nodeIssues
  by_cases null : v.isNull
  · have admitted : parts.Admits (fun check w => check w [] = []) v := by
      cases v <;> simp_all [Json.isNull, NodeParts.Admits]
    simp [null, admitted]
  by_cases typed : f.type.all (Json.hasType · v)
  · simp only [null, typed, Bool.false_eq_true, Bool.not_true, if_false, List.append_eq_nil_iff]
    have content : contentIssues c f parts v path = [] ↔
        contentIssues c f {} v [] = [] ∧ parts.Admits (fun check w => check w [] = []) v := by
      cases v with
      | str text => simp [contentIssues, NodeParts.Admits, stringIssues, limit_eq_nil_iff]
      | num n => simp [contentIssues, NodeParts.Admits, numberIssues, limit_eq_nil_iff]
      | arr items =>
        cases found : parts.items with
        | none => simp [contentIssues, NodeParts.Admits, itemCountIssues, limit_eq_nil_iff,
            demand_eq_nil_iff, found]
        | some check => simp [contentIssues, NodeParts.Admits, itemCountIssues, limit_eq_nil_iff,
            demand_eq_nil_iff, itemIssues_eq_nil_iff (anywhere check (.inl found)), found]
      | obj members =>
        have alone : (members.flatMap fun (key, w) => memberIssues {} [] key w) = [] := by
          simp [memberIssues_eq_nil_iff, NodeParts.rule]
        simp only [contentIssues, List.append_eq_nil_iff, members_eq_nil_iff anywhere, alone, and_true]
        refine and_congr_left fun _ => ?_
        split <;> simp [missingIssues, demand_eq_nil_iff]
      | _ => simp [contentIssues, NodeParts.Admits]
    rw [content]
    split <;> simp [demand_eq_nil_iff, and_assoc]
  · simp [null, typed]

/-- Whether a check succeeds does not depend on where it starts. -/
theorem issues_eq_nil_iff (s : Shape) : ∀ v path, issues c s v path = [] ↔ isValid c s v = true := by
  intro v path
  rw [issues_eq, List.map_eq_nil_iff, isValid, List.isEmpty_iff]

@[simp] theorem isValid_allOf (c : Checks) (parts : List Shape) (v : Json) :
    isValid c (.allOf parts) v = parts.all fun s => isValid c s v := by
  rw [Bool.eq_iff_iff, ← issues_eq_nil_iff _ v []]
  simp [listIssues_eq, issues_eq_nil_iff]

@[simp] theorem isValid_anyOf (c : Checks) (parts : List Shape) (v : Json) :
    isValid c (.anyOf parts) v = parts.any fun s => isValid c s v := by
  rw [Bool.eq_iff_iff, ← issues_eq_nil_iff _ v []]
  simp [listIssues_eq, demand_eq_nil_iff, isValid, validate]

@[simp] theorem isValid_oneOf (c : Checks) (parts : List Shape) (v : Json) :
    isValid c (.oneOf parts) v = ((parts.countP fun s => isValid c s v) == 1) := by
  rw [Bool.eq_iff_iff, ← issues_eq_nil_iff _ v []]
  simp [listIssues_eq, demand_eq_nil_iff, List.countP_map, Function.comp_def, isValid, validate]

@[simp] theorem isValid_not (c : Checks) (part : Shape) (v : Json) :
    isValid c (.not part) v = !isValid c part v := by
  rw [Bool.eq_iff_iff, ← issues_eq_nil_iff _ v []]
  simp [demand_eq_nil_iff, isValid, validate]

/-- A node accepts what its facets accept, if the items and members pass its parts. -/
theorem isValid_simple {parts : NodeParts Shape} : isValid c (.simple f parts) v = true ↔
    isValid c (.simple f {}) v = true ∧ parts.Admits (fun s w => isValid c s w = true) v := by
  have held : ∀ check, (partIssues c parts).Holds check →
      ∀ w p q, check w p = [] ↔ check w q = [] := by
    intro check found w p q
    obtain ⟨s, -, rfl⟩ := NodeParts.holds_map (partIssues_eq c parts ▸ found)
    rw [issues_eq_nil_iff, issues_eq_nil_iff]
  rw [← issues_eq_nil_iff _ v [], ← issues_eq_nil_iff _ v [], issues, issues,
    nodeIssues_eq_nil_iff held, partIssues_eq, NodeParts.admits_map]
  simp only [issues_eq_nil_iff]
  rfl

/-- Null is decided by the facets, before all other checks. -/
theorem isValid_null {parts : NodeParts Shape} : isValid c (.simple f parts) .null = admitsNull f := by
  rw [isValid, validate, issues, nodeIssues]
  cases admitsNull f <;> rfl

@[simp] theorem isValid_any : isValid c any v = true := by
  rw [isValid, validate, any, issues, List.isEmpty_iff]
  cases v <;> simp [nodeIssues, Json.isNull, admitsNull, contentIssues, partIssues, optionIssues,
    tableIssues, additionalIssues, stringIssues, numberIssues, itemCountIssues, limit, demand,
    missingIssues, memberIssues]

end Shape
end ApiAtlas
