import ApiAtlas.Proofs.Json.Equality
import ApiAtlas.Proofs.Shape.IssueOrigins

/-! Where checks compare values. A node compares a value with those it lists, and the items of a list with one
another. What it reports agrees with equality of values, except where the comparison overlooks every listed value or
pair of items that are equal, or confuses some where none are. -/
namespace ApiAtlas.Shape

variable {c : Checks} {f : Facets} {parts : NodeParts Shape} {v : Json} {items : List Json} {path : Path}
  {issue : Issue} {kind : IssueKind} {message : String}

/-! Issues of a value itself are those of its node; those of its parts lie further down. -/

theorem ne_of_within_below {steps : List Step} (within : issue.Within (path ++ steps)) (further : steps ≠ []) :
    issue.path ≠ path := by
  intro here
  obtain ⟨rest, whole⟩ := within.inside
  rw [here, List.append_assoc] at whole
  exact further (List.append_eq_nil_iff.mp (List.append_right_eq_self.mp whole)).1

theorem mem_demand_iff {ok : Bool} :
    issue ∈ demand ok path kind message ↔ ok = false ∧ issue = ⟨path, kind, message⟩ := by
  cases ok <;> simp [demand]

theorem kind_of_limit {α : Type} {bound : Option α} {keeps : α → Bool} {message : α → String}
    (found : issue ∈ limit bound keeps path kind message) : issue.kind = kind := by
  cases bound with
  | none => contradiction
  | some b => rw [(mem_demand_iff.mp found).2]

/-- What the parts of a node find is not found at the value itself. -/
theorem path_ne_of_memberIssues {key : String}
    (found : issue ∈ memberIssues (partIssues c parts) path key v) : issue.path ≠ path := by
  rw [partIssues_eq, memberIssues_eq, NodeParts.rule_map] at found
  cases rule : parts.rule key with
  | allowed => simp [rule, Additional.map] at found
  | denied =>
    obtain rfl : issue = _ := by simpa [rule, Additional.map] using found
    simp
  | shape s =>
    simp only [rule, Additional.map] at found
    exact ne_of_within_below (sound_issues c s v _ issue found) (List.cons_ne_nil _ _)

theorem path_ne_of_itemIssues {s : Shape} {start : Nat}
    (found : issue ∈ itemIssues (issues c s) path start items) : issue.path ≠ path := by
  obtain ⟨i, w, -, reported⟩ := exists_item_of_itemIssues found
  exact ne_of_within_below (sound_issues c s w _ issue reported) (List.cons_ne_nil _ _)

/-- The issues of a list itself are about its length and the repetition of items. -/
theorem itemCount_of_contentIssues (found : issue ∈ contentIssues c f (partIssues c parts) (.arr items) path)
    (here : issue.path = path) : issue ∈ itemCountIssues f items path := by
  rcases List.mem_append.mp found with counts | inside
  · split at counts
    · exact counts
    · contradiction
  · obtain ⟨_ | s, properties, additional⟩ := parts
    · contradiction
    · exact absurd here (path_ne_of_itemIssues inside)

theorem kind_of_itemCountIssues (found : issue ∈ itemCountIssues f items path) : issue.kind = .items := by
  simp only [itemCountIssues, List.mem_append] at found
  rcases found with (few | many) | repeated
  · exact kind_of_limit few
  · exact kind_of_limit many
  · rw [(mem_demand_iff.mp repeated).2]

/-- Beside the comparison with the listed values, no check of a value itself is about them. -/
theorem kind_ne_enum_of_contentIssues (found : issue ∈ contentIssues c f (partIssues c parts) v path)
    (here : issue.path = path) : issue.kind ≠ .enum := by
  cases v with
  | str s =>
    simp only [contentIssues] at found
    split at found
    · simp only [stringIssues, List.mem_append] at found
      rcases found with ((found | found) | found) | found <;> simp [kind_of_limit found]
    · contradiction
  | num n =>
    simp only [contentIssues] at found
    split at found
    · simp only [numberIssues, List.mem_append] at found
      rcases found with (found | found) | found <;> simp [kind_of_limit found]
    · contradiction
  | arr items => simp [kind_of_itemCountIssues (itemCount_of_contentIssues found here)]
  | obj members =>
    rcases List.mem_append.mp found with missing | inside
    · split at missing
      · obtain ⟨name, -, missing⟩ := List.mem_flatMap.mp missing
        simp [(mem_demand_iff.mp missing).2]
      · contradiction
    · obtain ⟨⟨key, w⟩, -, reported⟩ := List.mem_flatMap.mp inside
      exact absurd here (path_ne_of_memberIssues reported)
  | _ => contradiction

/-- Two items, the later one first, are in a relation. -/
def Repeated (r : Json → Json → Prop) (items : List Json) : Prop :=
  ∃ (i j : Nat) (v w : Json), i < j ∧ items[i]? = some v ∧ items[j]? = some w ∧ r w v

theorem distinct_eq_true_iff : distinct items = true ↔ items.Pairwise fun v w => w.same v = false := by
  induction items with
  | nil => simp [distinct]
  | cons v rest ih => simp [distinct, ih]

theorem distinct_eq_false_iff : distinct items = false ↔ Repeated (fun w v => w.same v = true) items := by
  rw [← Bool.not_eq_true, distinct_eq_true_iff, List.pairwise_iff_getElem]
  constructor
  · intro repeated
    push Not at repeated
    obtain ⟨i, j, hi, hj, before, same⟩ := repeated
    exact ⟨i, j, _, _, before, List.getElem?_eq_getElem hi, List.getElem?_eq_getElem hj, by simpa using same⟩
  · rintro ⟨i, j, v, w, before, first, second, same⟩ apart
    obtain ⟨hi, rfl⟩ := List.getElem?_eq_some_iff.mp first
    obtain ⟨hj, rfl⟩ := List.getElem?_eq_some_iff.mp second
    rw [apart i j hi hj before] at same
    contradiction

/-- A node says of a value itself that it is not listed. -/
def Unlisted (c : Checks) (f : Facets) (parts : NodeParts Shape) (v : Json) (path : Path) : Prop :=
  ∃ issue ∈ issues c (.simple f parts) v path, issue.path = path ∧ issue.kind = .enum

theorem unlisted_iff (asked : c.constraints = true) (listed : f.enum ≠ []) (present : v.isNull = false)
    (typed : f.type.all (Json.hasType · v) = true) :
    Unlisted c f parts v path ↔ ∀ e ∈ f.enum, e.same v = false := by
  have some : f.enum.isEmpty = false := by simpa using listed
  have all : issues c (.simple f parts) v path =
      demand (f.enum.any (·.same v)) path .enum ("must be one of " ++ Json.renderAll f.enum) ++
        contentIssues c f (partIssues c parts) v path := by
    simp [issues, nodeIssues, present, typed, asked, some]
  constructor
  · rintro ⟨issue, found, here, kind⟩
    rw [all, List.mem_append, mem_demand_iff] at found
    rcases found with ⟨none, -⟩ | content
    · simpa using none
    · exact absurd kind (kind_ne_enum_of_contentIssues content here)
  · intro none
    refine ⟨⟨path, .enum, "must be one of " ++ Json.renderAll f.enum⟩, ?_, rfl, rfl⟩
    rw [all, List.mem_append, mem_demand_iff]
    exact .inl ⟨by simpa using none, rfl⟩

/-- Sentences that begin with another letter are not about repeated items. -/
theorem unique_notMem_limit {bound : Option Nat} {keeps : Nat → Bool} (lead : String)
    (other : lead.toList.head? = some 'm') : (⟨path, .items, "items must be unique"⟩ : Issue) ∉
      limit bound keeps path .items (fun n => lead ++ toString n ++ " items") := by
  intro found
  cases bound with
  | none => contradiction
  | some n =>
    obtain ⟨-, same⟩ := mem_demand_iff.mp found
    have starts := congrArg (·.message.toList.head?) same
    simp [String.toList_append, List.head?_append, other] at starts

def NotUnique (c : Checks) (f : Facets) (parts : NodeParts Shape) (items : List Json) (path : Path) : Prop :=
  ⟨path, .items, "items must be unique"⟩ ∈ issues c (.simple f parts) (.arr items) path

theorem notUnique_iff (asked : c.constraints = true) (unique : f.uniqueItems = true)
    (typed : f.type.all (Json.hasType · (.arr items)) = true) :
    NotUnique c f parts items path ↔ Repeated (fun w v => w.same v = true) items := by
  rw [← distinct_eq_false_iff]
  have all : issues c (.simple f parts) (.arr items) path =
      (if !f.enum.isEmpty then demand (f.enum.any (·.same (.arr items))) path .enum
        ("must be one of " ++ Json.renderAll f.enum) else []) ++
        contentIssues c f (partIssues c parts) (.arr items) path := by
    simp [issues, nodeIssues, Json.isNull, typed, asked]
  constructor
  · intro found
    rw [NotUnique, all, List.mem_append] at found
    rcases found with listed | content
    · split at listed
      · simp [mem_demand_iff] at listed
      · contradiction
    · have counts := itemCount_of_contentIssues content rfl
      simp only [itemCountIssues, List.mem_append, unique, Bool.not_true, Bool.false_or] at counts
      rcases counts with (few | many) | repeated
      · exact absurd few (unique_notMem_limit "must contain at least " rfl)
      · exact absurd many (unique_notMem_limit "must contain at most " rfl)
      · exact (mem_demand_iff.mp repeated).1
  · intro repeated
    rw [NotUnique, all]
    simp [contentIssues, asked, itemCountIssues, mem_demand_iff, unique, repeated]

theorem repeated_congr {r q : Json → Json → Prop} (same : ∀ v ∈ items, ∀ w ∈ items, r w v ↔ q w v) :
    Repeated r items ↔ Repeated q items := by
  refine exists₄_congr fun i j v w => and_congr_right fun _ => and_congr_right fun first =>
    and_congr_right fun second => ?_
  exact same v (List.mem_of_getElem? first) w (List.mem_of_getElem? second)

theorem repeated_or {r q : Json → Json → Prop} :
    Repeated (fun w v => r w v ∨ q w v) items ↔ Repeated r items ∨ Repeated q items := by
  simp only [Repeated, and_or_left, exists_or]

/-- Where two alternatives differ, the one or the other is missing. -/
theorem or_iff_or_iff {p q r : Prop} : (p ∨ r ↔ p ∨ q) ↔ (q → p ∨ r) ∧ (r → p ∨ q) := by
  tauto

/-- A value is said to be unlisted exactly if no listed value is equal to it, unless all those that are equal are
overlooked, or none is and one is confused with it. Items are said to repeat exactly if two of them are equal, unless
all pairs that are equal are overlooked and none is confused, or none is equal and one is confused. -/
theorem comparison_is_equality_iff (asked : c.constraints = true) :
    (∀ v, f.enum ≠ [] → v.isNull = false → f.type.all (Json.hasType · v) = true → v.Genuine →
      (∀ e ∈ f.enum, e.Genuine) →
      ((Unlisted c f parts v path ↔ ∀ e ∈ f.enum, e.equal v = false) ↔
        ((∃ e ∈ f.enum, e.Overlooked v) → ∃ e ∈ f.enum, e.equal v = true ∧ ¬ e.Overlooked v) ∧
        ((∃ e ∈ f.enum, e.Confused v) → ∃ e ∈ f.enum, e.equal v = true))) ∧
    ∀ items, f.uniqueItems = true → f.type.all (Json.hasType · (.arr items)) = true →
      (∀ v ∈ items, v.Genuine) →
      ((NotUnique c f parts items path ↔ Repeated (fun w v => w.equal v = true) items) ↔
        (Repeated Json.Overlooked items →
          Repeated (fun w v => w.equal v = true ∧ ¬ w.Overlooked v) items ∨ Repeated Json.Confused items) ∧
        (Repeated Json.Confused items → Repeated (fun w v => w.equal v = true) items)) := by
  constructor
  · intro v listed present typed genuine all
    have judged : Unlisted c f parts v path ↔ ¬ ((∃ e ∈ f.enum, e.equal v = true ∧ ¬ e.Overlooked v) ∨
        ∃ e ∈ f.enum, e.Confused v) := by
      rw [unlisted_iff asked listed present typed]
      simp only [← exists_or, ← and_or_left, not_exists, not_and]
      refine forall₂_congr fun e member => ?_
      rw [← Json.same_iff (all e member) genuine, Bool.not_eq_true]
    have claimed : (∀ e ∈ f.enum, e.equal v = false) ↔ ¬ ∃ e ∈ f.enum, e.equal v = true := by simp
    have equal : (∃ e ∈ f.enum, e.equal v = true) ↔
        (∃ e ∈ f.enum, e.equal v = true ∧ ¬ e.Overlooked v) ∨ ∃ e ∈ f.enum, e.Overlooked v := by
      simp only [← exists_or, ← and_or_left, ← Json.equal_iff_overlooked_or_not]
    have apart : (∃ e ∈ f.enum, e.Overlooked v) → ¬ ∃ e ∈ f.enum, e.Confused v := by
      rintro ⟨e, -, collection, equal, -⟩ ⟨_, -, ⟨-⟩⟩
      cases e <;> contradiction
    rw [judged, claimed, not_iff_not, equal, or_iff_or_iff]
    exact and_congr_left fun _ => forall_congr' fun overlooked => or_iff_left (apart overlooked)
  · intro items unique typed genuine
    have judged : NotUnique c f parts items path ↔
        Repeated (fun w v => w.equal v = true ∧ ¬ w.Overlooked v) items ∨ Repeated Json.Confused items := by
      rw [notUnique_iff asked unique typed, ← repeated_or]
      exact repeated_congr fun v first w second => Json.same_iff (genuine w second) (genuine v first)
    have equal : Repeated (fun w v => w.equal v = true) items ↔
        Repeated (fun w v => w.equal v = true ∧ ¬ w.Overlooked v) items ∨ Repeated Json.Overlooked items := by
      rw [← repeated_or]
      exact repeated_congr fun v _ w _ => Json.equal_iff_overlooked_or_not
    rw [judged, equal, or_iff_or_iff]

section One

open Binary64
seal one beyond

def realOne : Number := .real (.finite false one)

theorem genuine_realOne : realOne.Genuine := by
  have rounded : ofInt 1 = .finite false one := by decide +kernel
  have double : (finite false one).Representable := by
    rw [← rounded]
    exact representable_ofInt 1
  exact ⟨rfl, double⟩

theorem value?_realOne : realOne.value? = some 1 := value?_one

theorem equal_realOne : (Number.whole 1).equal realOne = true :=
  Number.equal_iff.mpr (value?_realOne.symm ▸ congrArg some Int.cast_one)

/-- The list of a whole one and the list of a real one are equal, but the comparison overlooks it. -/
theorem overlooked_one : (Json.arr [.int 1]).Overlooked (.arr [.num realOne]) where
  collection := rfl
  equal := by simp [Json.equal, Json.equalBy, Json.equalItems, Json.int, equal_realOne]
  kinds := rfl

end One

def ones : Facets := { enum := [.arr [.int 1]], uniqueItems := true }

theorem genuine_of_mem_ones : ∀ e ∈ ones.enum, e.Genuine := by simp [ones, Json.int, Number.Genuine]

/-- The list of a real one is listed, but the node says that it is not. Two large whole numbers are different, but
the node says that they repeat. -/
theorem ones_misjudged :
    let one : Json := .arr [.num realOne]
    let large : List Json := [.int (2 ^ 53), .int (2 ^ 53 + 1)]
    ({} : Checks).constraints = true ∧ ones.enum ≠ [] ∧ one.isNull = false ∧ one.Genuine ∧
      (∀ e ∈ ones.enum, e.Genuine) ∧ ones.uniqueItems = true ∧ (∀ v ∈ large, v.Genuine) ∧
      ¬ (Unlisted {} ones {} one [] ↔ ∀ e ∈ ones.enum, e.equal one = false) ∧
      ¬ (NotUnique {} ones {} large [] ↔ Repeated (fun w v => w.equal v = true) large) := by
  intro one large
  have genuine : one.Genuine := by simp [one, genuine_realOne]
  have whole : ∀ v ∈ large, v.Genuine := by simp [large, Json.int, Number.Genuine]
  refine ⟨rfl, List.cons_ne_nil _ _, rfl, genuine, genuine_of_mem_ones, rfl, whole, ?_, ?_⟩
  · rw [(comparison_is_equality_iff rfl).1 one (List.cons_ne_nil _ _) rfl rfl genuine genuine_of_mem_ones]
    rintro ⟨matched, -⟩
    obtain ⟨e, member, -, seen⟩ := matched ⟨_, List.mem_singleton_self _, overlooked_one⟩
    obtain rfl := List.mem_singleton.mp member
    exact seen overlooked_one
  · rw [(comparison_is_equality_iff rfl).2 large rfl rfl whole]
    rintro ⟨-, matched⟩
    have apart : (Number.whole (2 ^ 53 + 1)).equal (.whole (2 ^ 53)) = false := by decide +kernel
    have confused : Repeated Json.Confused large :=
      ⟨0, 1, _, _, by decide, rfl, rfl, .num ⟨by decide +kernel, apart⟩⟩
    obtain ⟨i, j, v, w, before, first, second, equal⟩ := matched confused
    obtain ⟨inside, rfl⟩ := List.getElem?_eq_some_iff.mp second
    obtain ⟨rfl, rfl⟩ : i = 0 ∧ j = 1 := by
      have short : large.length = 2 := rfl
      omega
    obtain rfl : Json.int (2 ^ 53) = v := Option.some.inj first
    exact Bool.false_ne_true (apart.symm.trans equal)

/-- The comparison is not equality: a list of one is said to be unlisted where an equal one is listed. -/
theorem listed_one_unlisted : ¬ ∀ (c : Checks) (f : Facets) (parts : NodeParts Shape) (path : Path),
    c.constraints = true →
    (∀ v, f.enum ≠ [] → v.isNull = false → f.type.all (Json.hasType · v) = true → v.Genuine →
      (∀ e ∈ f.enum, e.Genuine) → (Unlisted c f parts v path ↔ ∀ e ∈ f.enum, e.equal v = false)) ∧
    ∀ items, f.uniqueItems = true → f.type.all (Json.hasType · (.arr items)) = true →
      (∀ v ∈ items, v.Genuine) →
      (NotUnique c f parts items path ↔ Repeated (fun w v => w.equal v = true) items) := by
  intro claim
  have unlisted : Unlisted {} ones {} (.arr [.num realOne]) [] := by
    refine (unlisted_iff rfl (List.cons_ne_nil _ _) rfl rfl).mpr fun e member => ?_
    obtain rfl := List.mem_singleton.mp member
    rfl
  have apart := ((claim {} ones {} [] rfl).1 _ (List.cons_ne_nil _ _) rfl rfl
    (by simp [genuine_realOne]) genuine_of_mem_ones).mp unlisted _ (List.mem_singleton_self _)
  exact Bool.false_ne_true (apart.symm.trans overlooked_one.equal)

end ApiAtlas.Shape
