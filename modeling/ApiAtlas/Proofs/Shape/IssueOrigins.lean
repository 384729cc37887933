import ApiAtlas.Proofs.Shape.Acceptance
import ApiAtlas.Proofs.Shape.PathText

/-! Where issues come from. A check goes down into a value along the shapes that apply to its parts, and an issue is
reported by one of these shapes, at the part that it is applied to. Only a member that is missing, or that is not
allowed, has no shape of its own: there the shape of the object reports it, below the place of the object. What a
check reports moves along with the place at which it starts. -/
namespace ApiAtlas

inductive Json.Leads : Json → Path → Json → Prop
  | here (v) : Leads v [] v
  | member {members key w path x} : (key, w) ∈ members → Leads w path x →
    Leads (.obj members) (.key key :: path) x
  | item {items i w path x} : items[i]? = some w → Leads w path x → Leads (.arr items) (.index i :: path) x

inductive Json.HasKey : Json → String → Prop
  | own {members key w} : (key, w) ∈ members → HasKey (.obj members) key
  | member {members key w name} : (key, w) ∈ members → HasKey w name → HasKey (.obj members) name
  | item {items w name} : w ∈ items → HasKey w name → HasKey (.arr items) name

namespace Shape

inductive Requires : Shape → String → Prop
  | own {f parts name} : name ∈ f.required → Requires (.simple f parts) name
  | part {f parts s name} : NodeParts.Holds parts s → Requires s name → Requires (.simple f parts) name
  | allOf {parts s name} : s ∈ parts → Requires s name → Requires (.allOf parts) name
  | anyOf {parts s name} : s ∈ parts → Requires s name → Requires (.anyOf parts) name
  | oneOf {parts s name} : s ∈ parts → Requires s name → Requires (.oneOf parts) name
  | not {s name} : Requires s name → Requires (.not s) name

/-- Checking the first shape on the first value reports what the second shape finds in the second value, at a
place. What the parts of `anyOf`, `oneOf` and `not` find is not reported. -/
inductive Applied : Shape → Json → Path → Shape → Json → Prop
  | whole (s v) : Applied s v [] s v
  | conjunct {parts s v place t w} : s ∈ parts → Applied s v place t w → Applied (.allOf parts) v place t w
  | item {f parts s items i v place t w} : f.type.all (Json.hasType · (.arr items)) = true →
    parts.items = some s → items[i]? = some v → Applied s v place t w →
    Applied (.simple f parts) (.arr items) (.index i :: place) t w
  | member {f parts s members key v place t w} : f.type.all (Json.hasType · (.obj members)) = true →
    (key, v) ∈ members → parts.rule key = .shape s → Applied s v place t w →
    Applied (.simple f parts) (.obj members) (.key key :: place) t w

/-- A shape fails on a value. It says so at the value, or below it at a member that is missing or not allowed. -/
inductive Fails (c : Checks) (s : Shape) : Json → Path → IssueKind → Prop
  | here {v kind message} : ⟨[], kind, message⟩ ∈ validate c s v → kind ≠ .required →
    kind ≠ .additionalProperty → Fails c s v [] kind
  | missing {members name message} : ⟨[.key name], .required, message⟩ ∈ validate c s (.obj members) →
    s.Requires name → (∀ w, (name, w) ∉ members) → Fails c s (.obj members) [.key name] .required
  | undeclared {members name w message} :
    ⟨[.key name], .additionalProperty, message⟩ ∈ validate c s (.obj members) → (name, w) ∈ members →
    Fails c s (.obj members) [.key name] .additionalProperty

inductive Reports (c : Checks) (f : Facets) (parts : NodeParts Shape) (path : Path) (issue : Issue) : Json → Prop
  | here {v} : issue.path = path → issue.kind ≠ .required → issue.kind ≠ .additionalProperty →
    Reports c f parts path issue v
  | missing {members name} : issue.path = path ++ [.key name] → issue.kind = .required → name ∈ f.required →
    (∀ w, (name, w) ∉ members) → Reports c f parts path issue (.obj members)
  | undeclared {members name w} : issue.path = path ++ [.key name] → issue.kind = .additionalProperty →
    (name, w) ∈ members → Reports c f parts path issue (.obj members)
  | item {items i v s} : f.type.all (Json.hasType · (.arr items)) = true → parts.items = some s →
    items[i]? = some v → issue ∈ issues c s v (path ++ [.index i]) → Reports c f parts path issue (.arr items)
  | member {members key v s} : f.type.all (Json.hasType · (.obj members)) = true → (key, v) ∈ members →
    parts.rule key = .shape s → issue ∈ issues c s v (path ++ [.key key]) →
    Reports c f parts path issue (.obj members)

variable {c : Checks} {f : Facets} {parts : NodeParts Shape} {v : Json} {path : Path} {issue : Issue}
  {kind : IssueKind}

theorem reports_of_demand {ok : Bool} {message : String} (found : issue ∈ demand ok path kind message)
    (present : kind ≠ .required) (allowed : kind ≠ .additionalProperty) : Reports c f parts path issue v := by
  cases ok with
  | true => contradiction
  | false =>
    obtain rfl := List.mem_singleton.mp found
    exact .here rfl present allowed

theorem reports_of_limit {α : Type} {bound : Option α} {keeps : α → Bool} {message : α → String}
    (found : issue ∈ limit bound keeps path kind message) (present : kind ≠ .required)
    (allowed : kind ≠ .additionalProperty) : Reports c f parts path issue v := by
  cases bound with
  | none => contradiction
  | some b => exact reports_of_demand found present allowed

theorem reports_of_stringIssues {s : String} (found : issue ∈ stringIssues f s path) :
    Reports c f parts path issue v := by
  simp only [stringIssues, List.mem_append] at found
  rcases found with ((found | found) | found) | found <;> exact reports_of_limit found (by decide) (by decide)

theorem reports_of_numberIssues {x : Binary64} (found : issue ∈ numberIssues f x path) :
    Reports c f parts path issue v := by
  simp only [numberIssues, List.mem_append] at found
  rcases found with (found | found) | found <;> exact reports_of_limit found (by decide) (by decide)

theorem reports_of_itemCountIssues {items : List Json} (found : issue ∈ itemCountIssues f items path) :
    Reports c f parts path issue v := by
  simp only [itemCountIssues, List.mem_append] at found
  rcases found with (found | found) | found
  · exact reports_of_limit found (by decide) (by decide)
  · exact reports_of_limit found (by decide) (by decide)
  · exact reports_of_demand found (by decide) (by decide)

theorem reports_of_missingIssues {members : List (String × Json)}
    (found : issue ∈ missingIssues f members path) : Reports c f parts path issue (.obj members) := by
  obtain ⟨name, required, found⟩ := List.mem_flatMap.mp found
  cases present : members.lookup name with
  | some w => simp [demand, present] at found
  | none =>
    simp only [present, demand, Option.isSome_none, Bool.false_eq_true, if_false] at found
    obtain rfl := List.mem_singleton.mp found
    refine .missing rfl rfl required fun w member => ?_
    simpa using List.lookup_eq_none_iff.mp present _ member

theorem exists_item_of_itemIssues {check : Checker} {start : Nat} {items : List Json}
    (found : issue ∈ itemIssues check path start items) :
    ∃ i v, items[i]? = some v ∧ issue ∈ check v (path ++ [.index (start + i)]) := by
  induction items generalizing start with
  | nil => contradiction
  | cons w rest ih =>
    rcases List.mem_append.mp found with first | later
    · exact ⟨0, w, rfl, first⟩
    · obtain ⟨i, v, there, reported⟩ := ih later
      exact ⟨i + 1, v, there, by rwa [Nat.add_right_comm] at reported⟩

theorem mem_itemIssues {check : Checker} {start i : Nat} {items : List Json} (there : items[i]? = some v)
    (found : issue ∈ check v (path ++ [.index (start + i)])) : issue ∈ itemIssues check path start items := by
  induction items generalizing start i with
  | nil => simp at there
  | cons w others ih =>
    cases i with
    | zero =>
      obtain rfl := Option.some.inj there
      exact List.mem_append_left _ found
    | succ i =>
      refine List.mem_append_right _ (ih there ?_)
      rwa [Nat.add_right_comm]

theorem reports_of_memberIssues {members : List (String × Json)} {key : String}
    (typed : f.type.all (Json.hasType · (.obj members)) = true) (inside : (key, v) ∈ members)
    (found : issue ∈ memberIssues (parts.map (issues c)) path key v) :
    Reports c f parts path issue (.obj members) := by
  rw [memberIssues_eq, NodeParts.rule_map] at found
  cases rule : parts.rule key with
  | allowed => simp [rule, Additional.map] at found
  | denied =>
    simp only [rule, Additional.map] at found
    obtain rfl := List.mem_singleton.mp found
    exact .undeclared rfl rfl inside
  | shape s =>
    simp only [rule, Additional.map] at found
    exact .member typed inside rule found

theorem reports_of_contentIssues (typed : f.type.all (Json.hasType · v) = true)
    (found : issue ∈ contentIssues c f (parts.map (issues c)) v path) : Reports c f parts path issue v := by
  cases v with
  | str s =>
    cases asked : c.constraints <;> simp only [contentIssues, asked] at found
    · contradiction
    · exact reports_of_stringIssues found
  | num n =>
    cases asked : c.constraints <;> simp only [contentIssues, asked] at found
    · contradiction
    · exact reports_of_numberIssues found
  | arr items =>
    rcases List.mem_append.mp found with counts | items
    · split at counts
      · exact reports_of_itemCountIssues counts
      · contradiction
    · cases declared : parts.items with
      | none => simp [NodeParts.map, declared] at items
      | some s =>
        simp only [NodeParts.map, declared, Option.map_some] at items
        obtain ⟨i, v, there, reported⟩ := exists_item_of_itemIssues items
        rw [Nat.zero_add] at reported
        exact .item typed declared there reported
  | obj members =>
    rcases List.mem_append.mp found with missing | members
    · split at missing
      · exact reports_of_missingIssues missing
      · contradiction
    · obtain ⟨⟨key, w⟩, inside, reported⟩ := List.mem_flatMap.mp members
      exact reports_of_memberIssues typed inside reported
  | _ => contradiction

theorem reports_of_nodeIssues (found : issue ∈ nodeIssues c f (parts.map (issues c)) v path) :
    Reports c f parts path issue v := by
  have type (found : issue ∈ [typeIssue path f.type v]) : Reports c f parts path issue v := by
    obtain rfl := List.mem_singleton.mp found
    exact .here rfl (by simp [typeIssue]) (by simp [typeIssue])
  unfold nodeIssues at found
  split at found
  next =>
    split at found
    · contradiction
    · exact type found
  next =>
    split at found
    · exact type found
    next typed =>
      rcases List.mem_append.mp found with listed | content
      · split at listed
        · exact reports_of_demand listed (by decide) (by decide)
        · contradiction
      · exact reports_of_contentIssues (by simpa using typed) content

/-- An issue of a value is reported by a shape that is applied to a part of the value and fails on it. -/
def Traced (c : Checks) (s : Shape) (v : Json) (issue : Issue) : Prop :=
  ∃ place t w rest, issue.path = place ++ rest ∧ Applied s v place t w ∧ Fails c t w rest issue.kind

theorem traced_here {s : Shape} (found : issue ∈ validate c s v) (place : issue.path = [])
    (present : issue.kind ≠ .required) (allowed : issue.kind ≠ .additionalProperty) : Traced c s v issue := by
  obtain ⟨_, kind, message⟩ := issue
  obtain rfl : _ = [] := place
  exact ⟨[], s, v, [], rfl, .whole s v, .here found present allowed⟩

theorem traced_composition {s : Shape} {ok : Bool} {message : String}
    (reports : validate c s v = demand ok [] .composition message) (found : issue ∈ validate c s v) :
    Traced c s v issue := by
  have same : issue = ⟨[], .composition, message⟩ := by
    rw [reports, demand] at found
    split at found
    · contradiction
    · exact List.mem_singleton.mp found
  exact traced_here found (by rw [same]) (by simp [same]) (by simp [same])

/-- The issue of a part is an issue of the whole below its place. -/
theorem Traced.below {s t : Shape} {w : Json} {step : Step}
    (applied : ∀ {place u x}, Applied t w place u x → Applied s v (step :: place) u x)
    (traced : ∀ issue ∈ validate c t w, Traced c t w issue) (found : issue ∈ issues c t w [step]) :
    Traced c s v issue := by
  rw [issues_eq] at found
  obtain ⟨inner, reported, rfl⟩ := List.mem_map.mp found
  obtain ⟨place, u, x, rest, path, reaches, fails⟩ := traced inner reported
  exact ⟨step :: place, u, x, rest, by simp [Issue.below, path], applied reaches, fails⟩

theorem traced_of_validate (s : Shape) : ∀ v, ∀ issue ∈ validate c s v, Traced c s v issue := by
  induction s using induct with
  | allOf parts ih =>
    intro v issue found
    simp only [validate, issues, listIssues_eq, List.flatMap_map, List.mem_flatMap] at found
    obtain ⟨s, member, found⟩ := found
    obtain ⟨place, t, w, rest, path, applied, fails⟩ := ih s member v issue found
    exact ⟨place, t, w, rest, path, .conjunct member applied, fails⟩
  | anyOf parts | oneOf parts | not part => exact fun v issue found => traced_composition rfl found
  | simple f parts ih =>
    intro v issue found
    have node : issue ∈ nodeIssues c f (parts.map (issues c)) v [] := by
      rwa [validate, issues, partIssues_eq] at found
    cases reports_of_nodeIssues node with
    | here place present allowed => exact traced_here found place present allowed
    | @missing members name place kind required absent =>
      obtain ⟨_, _, message⟩ := issue
      obtain ⟨rfl, rfl⟩ : _ = [Step.key name] ∧ _ = IssueKind.required := ⟨place, kind⟩
      exact ⟨[], _, _, _, rfl, .whole _ _, .missing found (.own required) absent⟩
    | @undeclared members name w place kind inside =>
      obtain ⟨_, _, message⟩ := issue
      obtain ⟨rfl, rfl⟩ : _ = [Step.key name] ∧ _ = IssueKind.additionalProperty := ⟨place, kind⟩
      exact ⟨[], _, _, _, rfl, .whole _ _, .undeclared found inside⟩
    | item typed declared there reported =>
      exact .below (.item typed declared there) (ih _ (.inl declared) _) reported
    | member typed inside rule reported =>
      exact .below (.member typed inside rule) (ih _ (NodeParts.holds_of_rule rule) _) reported

/-- What a shape is missing, it is missing below the value. -/
theorem Fails.ne_nil_of_required {s : Shape} {rest : Path} (fails : Fails c s v rest kind)
    (required : kind = .required) : rest ≠ [] := by
  cases fails with
  | here _ present => exact absurd required present
  | missing | undeclared => exact List.cons_ne_nil _ _

end Shape

structure Issue.Within (path : Path) (issue : Issue) : Prop where
  inside : path <+: issue.path
  below : issue.kind = .required → issue.path ≠ path

namespace Shape

def Sound (check : Checker) : Prop := ∀ v path, ∀ issue ∈ check v path, issue.Within path

theorem sound_issues (c : Checks) (s : Shape) : Sound (issues c s) := by
  intro v path issue found
  rw [issues_eq] at found
  obtain ⟨inner, reported, rfl⟩ := List.mem_map.mp found
  refine ⟨List.prefix_append path inner.path, fun required here => ?_⟩
  obtain ⟨place, t, w, rest, located, -, fails⟩ := traced_of_validate s v inner reported
  have nothing : inner.path = [] := List.append_right_eq_self.mp here
  exact fails.ne_nil_of_required required (List.append_eq_nil_iff.mp (located.symm.trans nothing)).2

theorem validate_singleField (c : Checks) (name : String) (s : Shape) (v : Json) :
    validate c (singleField name s false) (.obj [(name, v)]) = issues c s v [.key name] := by
  simp [validate, singleField, issues, nodeIssues, partIssues_eq, NodeParts.map, Json.isNull, Json.hasType,
    contentIssues, missingIssues, memberIssues]

variable {c : Checks} {v : Json} {path : Path} {s t : Shape} {w : Json} {name : String}

theorem Applied.leads (applied : Applied s v path t w) : v.Leads path w := by
  induction applied with
  | whole s v => exact .here v
  | conjunct _ _ ih => exact ih
  | item _ _ there _ ih => exact .item there ih
  | member _ inside _ _ ih => exact .member inside ih

theorem Applied.requires (applied : Applied s v path t w) (required : t.Requires name) : s.Requires name := by
  induction applied with
  | whole => exact required
  | conjunct member _ ih => exact .allOf member (ih required)
  | item _ declared _ _ ih => exact .part (.inl declared) (ih required)
  | member _ _ rule _ ih => exact .part (NodeParts.holds_of_rule rule) (ih required)

/-- A node reports what the shapes of its parts report. -/
theorem mem_validate_of_content {f : Facets} {parts : NodeParts Shape} (typed : f.type.all (Json.hasType · v) = true)
    (present : v.isNull = false) (found : issue ∈ contentIssues c f (parts.map (issues c)) v []) :
    issue ∈ validate c (.simple f parts) v := by
  simp [validate, issues, nodeIssues, partIssues_eq, typed, present, found]

/-- What an applied shape reports of a part is reported of the whole. -/
theorem Applied.reported (applied : Applied s v place t w) (found : issue ∈ validate c t w) :
    issue.below place ∈ validate c s v := by
  induction applied with
  | whole => exact found
  | conjunct member _ ih =>
    simp only [validate, issues, listIssues_eq, List.flatMap_map, List.mem_flatMap]
    exact ⟨_, member, ih found⟩
  | @item f parts s items i v place t w typed declared there _ ih =>
    refine mem_validate_of_content typed rfl (List.mem_append_right _ ?_)
    simp only [NodeParts.map, declared, Option.map_some]
    refine mem_itemIssues there ?_
    rw [issues_eq, List.mem_map]
    exact ⟨_, ih found, by simp [Issue.below]⟩
  | @member f parts s members key v place t w typed inside rule _ ih =>
    refine mem_validate_of_content typed rfl (List.mem_append_right _ (List.mem_flatMap.mpr ⟨_, inside, ?_⟩))
    simp only [memberIssues_eq, NodeParts.rule_map, rule, Additional.map]
    rw [issues_eq, List.mem_map]
    exact ⟨_, ih found, by simp [Issue.below]⟩

theorem Fails.reported (fails : Fails c s v rest kind) : ∃ message, ⟨rest, kind, message⟩ ∈ validate c s v := by
  cases fails with
  | here found | missing found | undeclared found => exact ⟨_, found⟩

end Shape

namespace Json.Leads

variable {v w x : Json} {path rest : Path} {name : String}

theorem append (leads : v.Leads path w) (further : w.Leads rest x) : v.Leads (path ++ rest) x := by
  induction leads with
  | here => exact further
  | member member _ ih => exact .member member (ih further)
  | item there _ ih => exact .item there (ih further)

/-- The keys of a part are keys of the whole. -/
theorem hasKey (leads : v.Leads path w) (inside : w.HasKey name) : v.HasKey name := by
  induction leads with
  | here => exact inside
  | member member _ ih => exact .member member (ih inside)
  | item there _ ih => exact .item (List.mem_of_getElem? there) (ih inside)

/-- The way to a part is along keys of the whole. -/
theorem hasKey_of_mem (leads : v.Leads path w) (step : .key name ∈ path) : v.HasKey name := by
  induction leads with
  | here => contradiction
  | member member _ ih =>
    rcases List.mem_cons.mp step with same | later
    · obtain rfl := Step.key.inj same
      exact .own member
    · exact .member member (ih later)
  | item there _ ih =>
    rcases List.mem_cons.mp step with other | later
    · contradiction
    · exact .item (List.mem_of_getElem? there) (ih later)

end Json.Leads

namespace Shape

variable {c : Checks} {s : Shape} {v : Json} {issue : Issue}

/-- The text of the path of an issue, read back, leads to a part of the value where a shape that is applied to it
fails, or one step further: to the member that this shape misses or does not allow. Only what is missing is not there,
and only the whole value has an empty path. -/
def Located (c : Checks) (s : Shape) (v : Json) (issue : Issue) : Prop :=
  ∃ place t w rest, Path.ofText? issue.path.text = some (place ++ rest) ∧
    (issue.kind ≠ .required → ∃ x, v.Leads (place ++ rest) x) ∧
    v.Leads place w ∧ Applied s v place t w ∧ Fails c t w rest issue.kind ∧
    (issue.path.text = "" → place = [] ∧ rest = [] ∧ w = v)

theorem Fails.leads {t : Shape} {rest : Path} {kind : IssueKind} (fails : Fails c t v rest kind)
    (present : kind ≠ .required) : ∃ x, v.Leads rest x := by
  cases fails with
  | here => exact ⟨v, .here v⟩
  | missing => contradiction
  | undeclared _ inside => exact ⟨_, .member inside (.here _)⟩

/-- A step of a failure is along a key of the value or a required name. -/
theorem Fails.named {t : Shape} {rest : Path} {kind : IssueKind} {name : String} (fails : Fails c t v rest kind)
    (step : .key name ∈ rest) : v.HasKey name ∨ t.Requires name := by
  cases fails with
  | here => contradiction
  | missing _ requires =>
    obtain rfl := Step.key.inj (List.mem_singleton.mp step)
    exact .inr requires
  | undeclared _ inside =>
    obtain rfl := Step.key.inj (List.mem_singleton.mp step)
    exact .inl (.own inside)

/-- Reported paths locate the failures, if keys and required names can be told apart in texts. -/
theorem issues_located (keys : ∀ name, v.HasKey name → Path.Plain name)
    (required : ∀ name, s.Requires name → Path.Plain name) (found : issue ∈ validate c s v) :
    Located c s v issue := by
  obtain ⟨place, t, w, rest, path, applied, fails⟩ := traced_of_validate s v issue found
  have leads := applied.leads
  have plain : ∀ name, .key name ∈ place ++ rest → Path.Plain name := by
    intro name step
    rcases List.mem_append.mp step with outer | inner
    · exact keys name (leads.hasKey_of_mem outer)
    · rcases fails.named inner with key | requires
      · exact keys name (leads.hasKey key)
      · exact required name (applied.requires requires)
  have read : Path.ofText? issue.path.text = some (place ++ rest) := by
    rw [path]
    exact Path.ofText?_text plain
  refine ⟨place, t, w, rest, read, fun present => ?_, leads, applied, fails, fun empty => ?_⟩
  · obtain ⟨x, further⟩ := fails.leads present
    exact ⟨x, leads.append further⟩
  · rw [empty] at read
    obtain ⟨rfl, rfl⟩ : place = [] ∧ rest = [] := List.append_eq_nil_iff.mp (Option.some.inj read).symm
    cases leads
    exact ⟨rfl, rfl, rfl⟩

theorem requires_simple_iff {f : Facets} {parts : NodeParts Shape} {name : String} :
    (simple f parts).Requires name ↔ name ∈ f.required ∨ ∃ s, parts.Holds s ∧ s.Requires name :=
  ⟨fun | .own member => .inl member | .part held requires => .inr ⟨_, held, requires⟩,
    fun | .inl member => .own member | .inr ⟨_, held, requires⟩ => .part held requires⟩

theorem hasKey_obj_iff {members : List (String × Json)} {name : String} :
    (Json.obj members).HasKey name ↔ ∃ m ∈ members, name = m.1 ∨ m.2.HasKey name := by
  constructor
  · rintro (member | ⟨member, inside⟩)
    · exact ⟨_, member, .inl rfl⟩
    · exact ⟨_, member, .inr inside⟩
  · rintro ⟨m, member, rfl | inside⟩
    · exact .own member
    · exact .member member inside

theorem hasKey_arr_iff {items : List Json} {name : String} :
    (Json.arr items).HasKey name ↔ ∃ w ∈ items, w.HasKey name :=
  ⟨fun | .item member inside => ⟨_, member, inside⟩, fun ⟨_, member, inside⟩ => .item member inside⟩

def roster : Shape := .simple { type := some .array } { items := some (
  .simple { type := some .object, required := ["id"] } { properties := [("id",
    .simple { type := some .string, minLength := some 1 } {})], additional := .denied }) }

/-- A user whose id is empty, and one without an id and with a name. -/
theorem roster_issues_located :
    let v : Json := .arr [.obj [("id", .str "")], .obj [("name", .str "x")]]
    (∀ name, v.HasKey name → Path.Plain name) ∧ (∀ name, roster.Requires name → Path.Plain name) ∧
      (validate {} roster v).map (·.path.text) = ["[0].id", "[1].id", "[1].name"] ∧
      ∀ issue ∈ validate {} roster v, Located {} roster v issue := by
  intro v
  have leaf (text name : String) : ¬ (Json.str text).HasKey name := nofun
  have keys : ∀ name, v.HasKey name → Path.Plain name := by
    intro name inside
    have among : name = "id" ∨ name = "name" := by
      simpa [v, hasKey_arr_iff, hasKey_obj_iff, leaf] using inside
    rcases among with rfl | rfl <;> decide
  have required : ∀ name, roster.Requires name → Path.Plain name := by
    intro name requires
    obtain rfl : name = "id" := by simpa [roster, requires_simple_iff, NodeParts.Holds] using requires
    decide
  exact ⟨keys, required, by decide, fun issue found => issues_located keys required found⟩

/-- A member that is not allowed has no shape: none fails on the member itself, be it applied or not. -/
theorem undeclared_member_without_shape : ¬ ∀ (c : Checks) (s : Shape) (v : Json) (issue : Issue),
    (∀ name, v.HasKey name → Path.Plain name) → (∀ name, s.Requires name → Path.Plain name) →
    issue ∈ validate c s v → issue.kind ≠ .required →
    ∃ path w, Path.ofText? issue.path.text = some path ∧ v.Leads path w ∧
      ∃ t, ∃ failure ∈ validate c t w, failure.kind = issue.kind := by
  intro claim
  let closed : Shape := .simple { type := some .object } { additional := .denied }
  have keys : ∀ name, (Json.obj [("x", .int 1)]).HasKey name → Path.Plain name := by
    intro name inside
    have leaf : ¬ (Json.int 1).HasKey name := nofun
    obtain rfl : name = "x" := by simpa [hasKey_obj_iff, leaf] using inside
    decide
  have required : ∀ name, closed.Requires name → Path.Plain name := by
    intro name requires
    simp [closed, requires_simple_iff, NodeParts.Holds] at requires
  obtain ⟨path, w, read, leads, t, failure, found, kind⟩ := claim {} closed _
    ⟨[.key "x"], .additionalProperty, "additional property x is not allowed"⟩ keys required (by decide) nofun
  have step : Path.ofText? (Path.text [.key "x"]) = some [.key "x"] := by decide
  obtain rfl : path = [.key "x"] := Option.some.inj (read.symm.trans step)
  obtain rfl : w = .int 1 := by
    cases leads with
    | member inside further =>
      obtain ⟨-, rfl⟩ := Prod.mk.inj (List.mem_singleton.mp inside)
      cases further
      rfl
  obtain ⟨place, u, x, rest, -, applied, fails⟩ := traced_of_validate t _ failure found
  cases applied.leads
  rw [kind] at fails
  cases fails with
  | here _ _ allowed => exact allowed rfl

end Shape
end ApiAtlas
