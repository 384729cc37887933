import ApiAtlas.Proofs.Number.Rounding
import ApiAtlas.Proofs.Shape.Acceptance
import ApiAtlas.Shape.Coerce

/-! What conversion does to accepted values. A value is converted to the first type found in its shape. If
the shape asks for that type, an accepted value stays as it is, or a whole double becomes an integer, and
no shape tells the two apart. A value is lost where a composition accepts it by a part of another type,
or where an array whose items were converted is compared as a whole. -/
namespace ApiAtlas

inductive Json.Representable : Json → Prop
  | null : Representable .null
  | bool (b) : Representable (.bool b)
  | whole (n) : Representable (.num (.whole n))
  | real {x : Binary64} : x.Representable → Representable (.num (.real x))
  | str (s) : Representable (.str s)
  | arr {items} : (∀ v ∈ items, Representable v) → Representable (.arr items)
  | obj {members} : (∀ key v, (key, v) ∈ members → Representable v) → Representable (.obj members)

theorem Json.Representable.item {items : List Json} {v : Json} (whole : (Json.arr items).Representable)
    (member : v ∈ items) : v.Representable := by
  cases whole with
  | arr inside => exact inside v member

/-- The same number, both times whole or both times not. -/
structure Number.Alike (a b : Number) : Prop where
  value : a.toBinary64.Same b.toBinary64
  whole : Json.hasType .integer (.num a) = Json.hasType .integer (.num b)

inductive Json.Alike : Json → Json → Prop
  | refl (v) : Alike v v
  | num {a b : Number} : a.Alike b → Alike (.num a) (.num b)

namespace Json.Alike

variable {v w : Json}

theorem hasType (alike : v.Alike w) (t : TypeName) : v.hasType t = w.hasType t := by
  obtain - | alike := alike
  · rfl
  · cases t
    case integer => exact alike.whole
    all_goals rfl

theorem same_right (alike : v.Alike w) (u : Json) : u.same v = u.same w := by
  obtain - | alike := alike
  · rfl
  · cases u
    case num => simp only [same, Binary64.eqv, alike.value.position]
    all_goals rfl

theorem same_left (alike : v.Alike w) (u : Json) : v.same u = w.same u := by
  obtain - | alike := alike
  · rfl
  · cases u
    case num => simp only [same, Binary64.eqv, alike.value.position]
    all_goals rfl

end Json.Alike

namespace Shape

/-- Every accepted value but null has the type. -/
inductive Demands (t : TypeName) : Shape → Prop
  | simple {f parts} : f.type = some t → Demands t (.simple f parts)
  | allOf {parts s} : s ∈ parts → Demands t s → Demands t (.allOf parts)
  | anyOf {parts} : (∀ s ∈ parts, Demands t s) → Demands t (.anyOf parts)
  | oneOf {parts} : (∀ s ∈ parts, Demands t s) → Demands t (.oneOf parts)

/-- Nothing is converted, or the shape demands the type that is converted to, which is not that of arrays. -/
def Scalar (s : Shape) : Prop := ∀ t, s.primaryType = some t → t ≠ .array ∧ s.Demands t

/-- A value is not converted, or has the type that it is converted to, which is not that of arrays. -/
def Fits (s : Shape) (v : Json) : Prop :=
  ∀ t, s.primaryType = some t → t ≠ .array ∧ (v.isNull = true ∨ v.hasType t = true)

/-- A shape of scalars, or arrays of such items that are not compared as a whole. -/
inductive Steady : Shape → Prop
  | scalar {s} : s.Scalar → Steady s
  | array {f parts} : f.type = some .array → f.enum = [] →
    (∀ s, parts.items = some s → Steady s) →
    (f.uniqueItems = true → ∀ s, parts.items = some s → s.Scalar) → Steady (.simple f parts)

/-- Where an accepted value is lost by conversion: a composition whose parts no longer give the verdict, or
an array that is no longer listed, repeats an item, or has an item that is lost. -/
inductive Spoils (c : Checks) : Shape → Json → Prop
  | allOf {parts s v} : s ∈ parts → isValid c s ((Shape.allOf parts).coerce v) = false → Spoils c (.allOf parts) v
  | anyOf {parts v} : (∀ s ∈ parts, isValid c s ((Shape.anyOf parts).coerce v) = false) →
    Spoils c (.anyOf parts) v
  | oneOf {parts v} : (parts.countP fun s => isValid c s ((Shape.oneOf parts).coerce v)) ≠ 1 →
    Spoils c (.oneOf parts) v
  | listed {f parts s items} : f.type = some .array → parts.items = some s → c.constraints = true →
    f.enum ≠ [] → (∀ e ∈ f.enum, e.same (.arr (items.map s.coerce)) = false) →
    Spoils c (.simple f parts) (.arr items)
  | repeated {f parts s items} : f.type = some .array → parts.items = some s → c.constraints = true →
    f.uniqueItems = true → distinct (items.map s.coerce) = false → Spoils c (.simple f parts) (.arr items)
  | item {f parts s items w} : f.type = some .array → parts.items = some s → w ∈ items → Spoils c s w →
    Spoils c (.simple f parts) (.arr items)

variable {c : Checks} {f : Facets} {s : Shape} {v w : Json} {t : TypeName}

section Numbers

open Binary64
seal one beyond

/-- Whether a zero is a multiple does not depend on its sign. -/
theorem isMultiple_zero (step : Binary64) (s t : Bool) :
    isMultiple step (.finite s 0) = isMultiple step (.finite t 0) := by
  cases step with
  | nan => rfl
  | infinite u =>
    simp only [isMultiple, div, round_of_zero, mul, if_true]
    rfl
  | finite u n =>
    rcases Nat.eq_zero_or_pos n with rfl | positive
    · simp only [isMultiple, zero, lt_finite, signed_zero, Int.lt_irrefl, decide_false,
        Bool.not_false, Bool.true_or]
    · simp only [isMultiple, div_of_zero _ _ positive, round_of_zero, mul_of_zero, abs_sub_of_zeros]
      rfl

theorem numberIssues_congr {x y : Binary64} (same : x.Same y) (f : Facets) (path : Path) :
    numberIssues f x path = numberIssues f y path := by
  have multiple (step : Binary64) : isMultiple step x = isMultiple step y := by
    rcases same with rfl | ⟨s, t, rfl, rfl⟩
    · rfl
    · exact isMultiple_zero step s t
  simp only [numberIssues, lt, le, same.position, multiple]

end Numbers

/-- What the facets of a node ask of a value that is there. -/
theorem isValid_facets_iff (present : v.isNull = false) : isValid c (.simple f {}) v = true ↔
    f.type.all (Json.hasType · v) = true ∧
      (c.constraints = true → f.enum ≠ [] → ∃ e ∈ f.enum, e.same v = true) ∧
      contentIssues c f {} v [] = [] := by
  have listed : (if c.constraints && !f.enum.isEmpty then demand (f.enum.any (·.same v)) [] .enum
        ("must be one of " ++ Json.renderAll f.enum) else []) = [] ↔
      (c.constraints = true → f.enum ≠ [] → ∃ e ∈ f.enum, e.same v = true) := by
    split <;> simp_all [demand_eq_nil_iff]
  rw [isValid, validate, issues, List.isEmpty_iff, nodeIssues, ← listed]
  simp only [present, Bool.false_eq_true, if_false]
  cases f.type.all (Json.hasType · v) with
  | false => simp
  | true => simp only [Bool.not_true, Bool.false_eq_true, if_false, List.append_eq_nil_iff, true_and]; rfl

/-- No shape tells a number from one that is alike. -/
theorem isValid_congr (alike : v.Alike w) (s : Shape) : isValid c s v = isValid c s w := by
  induction s using induct with
  | allOf parts ih =>
    rw [isValid_allOf, isValid_allOf, Bool.eq_iff_iff, List.all_eq_true, List.all_eq_true]
    exact forall₂_congr fun s member => by rw [ih s member]
  | anyOf parts ih =>
    rw [isValid_anyOf, isValid_anyOf, Bool.eq_iff_iff, List.any_eq_true, List.any_eq_true]
    exact exists_congr fun s => and_congr_right fun member => by rw [ih s member]
  | oneOf parts ih =>
    rw [isValid_oneOf, isValid_oneOf, List.countP_congr fun s member => by rw [ih s member]]
  | not part ih => rw [isValid_not, isValid_not, ih]
  | simple f parts =>
    obtain - | @⟨a, b, numbers⟩ := alike
    · rfl
    · have alike := Json.Alike.num numbers
      have content : contentIssues c f {} (.num a) [] = contentIssues c f {} (.num b) [] := by
        simp only [contentIssues, numberIssues_congr numbers.value]
      have facets : isValid c (.simple f {}) (.num a) = true ↔
          isValid c (.simple f {}) (.num b) = true := by
        have present (n : Number) : (Json.num n).isNull = false := rfl
        simp only [isValid_facets_iff (present _), alike.hasType, alike.same_right, content]
      exact Bool.eq_iff_iff.mpr
        (isValid_simple.trans ((and_congr facets Iff.rfl).trans isValid_simple.symm))

/-- Conversion goes by the primary type alone, and by the first item shape. -/
theorem coerce_eq (s : Shape) (v : Json) : s.coerce v = coerceWith s.primaryType (itemCoercion s) v := by
  cases s <;> simp only [coerce, primaryType, itemCoercion]
  rfl

theorem coerce_array {parts : NodeParts Shape} (array : f.type = some .array) (items : List Json) :
    (simple f parts).coerce (.arr items) =
      .arr (match parts.items with
        | some s => items.map s.coerce
        | none => items) := by
  obtain ⟨_ | s, properties, additional⟩ := parts <;> rw [coerce, array]
  · exact congrArg Json.arr (List.map_id' items)
  · rfl

theorem coerce_null (s : Shape) : s.coerce .null = .null := by
  rw [coerce_eq]
  rcases s.primaryType with _ | t
  · rfl
  · cases t <;> rfl

/-- A whole double in the range of the integers is the integer it is converted to. -/
theorem alike_of_wholeOf {x : Binary64} {n : Int} (representable : x.Representable)
    (whole : wholeOf? x = some n) : (Number.real x).Alike (.whole n) := by
  unfold wholeOf? at whole
  split at whole
  next inside =>
    cases whole
    have whole := (Bool.and_eq_true_iff.mp inside).1
    exact ⟨Binary64.same_ofInt_truncate representable whole, whole⟩
  next => contradiction

/-- A value that has its type already, and is no array, stays the same. -/
theorem alike_coerceTo (typed : v.isNull = true ∨ v.hasType t = true) (flat : t ≠ .array)
    (representable : v.Representable) (item : Option (Json → Json)) : v.Alike (coerceTo t item v) := by
  cases v with
  | null => cases t <;> exact .refl _
  | obj members => cases t <;> exact .refl _
  | arr items => cases t <;> first | contradiction | exact .refl _
  | bool b =>
    have typed := typed.resolve_left Bool.false_ne_true
    cases t <;> first | contradiction | exact .refl _
  | str text =>
    have typed := typed.resolve_left Bool.false_ne_true
    cases t <;> first | contradiction | exact .refl _
  | num n =>
    have typed := typed.resolve_left Bool.false_ne_true
    cases t
    case number => exact .refl _
    case integer =>
      cases n with
      | whole n => exact .refl _
      | real x =>
        have double : x.Representable := by cases representable; assumption
        have integer : coerceTo .integer item (.num (.real x)) =
            ((wholeOf? x).map Json.int).getD (.num (.real x)) := rfl
        rw [integer]
        cases converted : wholeOf? x with
        | none => exact .refl _
        | some n => exact .num (alike_of_wholeOf double converted)
    all_goals contradiction

theorem Demands.hasType (demands : s.Demands t) (accepted : isValid c s v = true) :
    v.isNull = true ∨ v.hasType t = true := by
  induction demands with
  | @simple f parts type =>
    cases present : v.isNull with
    | true => exact .inl rfl
    | false =>
      obtain ⟨facets, -⟩ := isValid_simple.mp accepted
      have typed := ((isValid_facets_iff present).mp facets).1
      exact .inr (by simpa [type] using typed)
  | allOf member _ ih => exact ih (by simp_all)
  | @anyOf parts _ ih =>
    obtain ⟨s, member, matched⟩ : ∃ s ∈ parts, isValid c s v = true := by simpa using accepted
    exact ih s member matched
  | @oneOf parts _ ih =>
    have count : (parts.countP fun s => isValid c s v) = 1 := by simpa using accepted
    obtain ⟨s, member, matched⟩ := List.countP_pos_iff.mp (by omega : 0 < parts.countP fun s => isValid c s v)
    exact ih s member matched

/-- A value that fits stays the same. -/
theorem Fits.alike (fits : s.Fits v) (representable : v.Representable) : v.Alike (s.coerce v) := by
  rw [coerce_eq]
  cases found : s.primaryType with
  | none => exact .refl v
  | some t =>
    obtain ⟨flat, typed⟩ := fits t found
    exact alike_coerceTo typed flat representable _

theorem Fits.isValid_coerce (fits : s.Fits v) (representable : v.Representable) :
    isValid c s (s.coerce v) = isValid c s v :=
  (isValid_congr (fits.alike representable) s).symm

/-- What a shape of scalars accepts fits. -/
theorem Scalar.fits (scalar : s.Scalar) (accepted : isValid c s v = true) : s.Fits v :=
  fun t found => ⟨(scalar t found).1, (scalar t found).2.hasType accepted⟩

theorem itemCountIssues_map {items : List Json} (g : Json → Json)
    (none : itemCountIssues f items [] = []) : itemCountIssues f (items.map g) [] = [] ↔
      (f.uniqueItems = true → distinct (items.map g) = true) := by
  simp only [itemCountIssues, List.append_eq_nil_iff, limit_eq_nil_iff, demand_eq_nil_iff,
    List.length_map] at none ⊢
  rw [and_iff_right none.1]
  cases f.uniqueItems <;> simp

/-- Only the listed values and the repetition of items look at the items of an array as a whole. -/
theorem isValid_facets_map {items : List Json} (g : Json → Json)
    (accepted : isValid c (.simple f {}) (.arr items) = true) :
    isValid c (.simple f {}) (.arr (items.map g)) = true ↔
      (c.constraints = true → f.enum ≠ [] → ∃ e ∈ f.enum, e.same (.arr (items.map g)) = true) ∧
      (c.constraints = true → f.uniqueItems = true → distinct (items.map g) = true) := by
  obtain ⟨typed, -, content⟩ := (isValid_facets_iff rfl).mp accepted
  have type (items : List Json) : (fun t => Json.hasType t (.arr items)) = (· == .array) := by
    funext t; cases t <;> rfl
  rw [isValid_facets_iff rfl, type, and_iff_right (type items ▸ typed)]
  refine and_congr_right fun _ => ?_
  cases active : c.constraints with
  | false => simp [contentIssues, active]
  | true =>
    simp only [contentIssues, active, if_true, List.append_nil] at content ⊢
    simpa using itemCountIssues_map g content

/-- What is lost by conversion is rejected. -/
theorem Spoils.rejects (spoils : Spoils c s v) : isValid c s (s.coerce v) = false := by
  induction spoils with
  | allOf member rejected => simpa using ⟨_, member, rejected⟩
  | anyOf rejected => simpa using rejected
  | oneOf count => simpa using count
  | @listed f parts s items array found active listed absent =>
    rw [coerce_array array, found, Bool.eq_false_iff]
    intro accepted
    obtain ⟨facets, -⟩ := isValid_simple.mp accepted
    obtain ⟨e, member, same⟩ := ((isValid_facets_iff rfl).mp facets).2.1 active listed
    simp [absent e member] at same
  | @repeated f parts s items array found active unique repeated =>
    rw [coerce_array array, found, Bool.eq_false_iff]
    intro accepted
    obtain ⟨facets, -⟩ := isValid_simple.mp accepted
    have content := ((isValid_facets_iff rfl).mp facets).2.2
    simp [contentIssues, active, itemCountIssues, demand, unique, repeated] at content
  | @item f parts s items w array found member _ ih =>
    rw [coerce_array array, found, Bool.eq_false_iff]
    intro accepted
    obtain ⟨-, admitted⟩ := isValid_simple.mp accepted
    have kept : isValid c s (s.coerce w) = true := admitted s found _ (List.mem_map_of_mem member)
    simp [ih] at kept

/-- An accepted value that is rejected once converted is lost in one of the ways listed. -/
theorem spoils_of_rejects (s : Shape) : ∀ v, v.Representable → isValid c s v = true →
    isValid c s (s.coerce v) = false → Spoils c s v := by
  induction s using induct with
  | allOf parts =>
    intro v _ _ rejected
    obtain ⟨s, member, fails⟩ : ∃ s ∈ parts, isValid c s ((Shape.allOf parts).coerce v) = false := by
      simpa using rejected
    exact .allOf member fails
  | anyOf parts => exact fun v _ _ rejected => .anyOf (by simpa using rejected)
  | oneOf parts => exact fun v _ _ rejected => .oneOf (by simpa using rejected)
  | not part => intro v _ accepted rejected; rw [coerce, accepted] at rejected; contradiction
  | simple f parts ih =>
    intro v representable accepted rejected
    by_cases array : f.type = some .array
    case neg =>
      have scalar : (Shape.simple f parts).Scalar := fun t type =>
        ⟨by rintro rfl; exact array type, .simple type⟩
      rw [(scalar.fits accepted).isValid_coerce representable, accepted] at rejected
      contradiction
    obtain ⟨facets, admitted⟩ := isValid_simple.mp accepted
    cases present : v.isNull
    case true =>
      obtain rfl : v = .null := by cases v <;> first | rfl | contradiction
      rw [coerce_null, accepted] at rejected
      contradiction
    obtain ⟨items, rfl⟩ : ∃ items, v = .arr items := by
      have typed := ((isValid_facets_iff present).mp facets).1
      cases v <;> simp_all [Json.hasType]
    rw [coerce_array array] at rejected
    cases found : parts.items with
    | none =>
      rw [found, accepted] at rejected
      contradiction
    | some s =>
      rw [found] at rejected
      by_contra none
      have kept := (isValid_facets_map s.coerce facets).mpr ⟨?listed, ?distinct⟩
      case listed =>
        intro active listed
        by_contra absent
        exact none (.listed array found active listed (by simpa using absent))
      case distinct =>
        intro active unique
        by_contra repeated
        exact none (.repeated array found active unique (by simpa using repeated))
      have all : parts.Admits (fun s w => isValid c s w = true) (.arr (items.map s.coerce)) := by
        intro t same w converted
        obtain rfl : s = t := Option.some.inj (found.symm.trans same)
        obtain ⟨u, member, rfl⟩ := List.mem_map.mp converted
        by_contra lost
        exact none (.item array found member (ih s (.inl found) u (representable.item member)
          (admitted s found u member) (Bool.eq_false_iff.mpr lost)))
      rw [isValid_simple.mpr ⟨kept, all⟩] at rejected
      contradiction

/-- An accepted value is accepted again once converted, unless it is lost in one of the ways listed. -/
theorem isValid_coerce_iff (representable : v.Representable) (accepted : isValid c s v = true) :
    isValid c s (s.coerce v) = true ↔ ¬ Spoils c s v := by
  constructor
  · intro kept spoils
    simp [spoils.rejects] at kept
  · intro none
    by_contra rejected
    exact none (spoils_of_rejects s v representable accepted (Bool.eq_false_iff.mpr rejected))

theorem distinct_map {items : List Json} {g : Json → Json} (alike : ∀ v ∈ items, v.Alike (g v)) :
    distinct (items.map g) = distinct items := by
  induction items with
  | nil => rfl
  | cons v rest ih =>
    have first := alike v List.mem_cons_self
    have others : ∀ w ∈ rest, w.Alike (g w) := fun w member => alike w (List.mem_cons_of_mem v member)
    have repeated : (rest.map g).any (·.same (g v)) = rest.any (·.same v) := by
      rw [List.any_map, Bool.eq_iff_iff, List.any_eq_true, List.any_eq_true]
      refine exists_congr fun w => and_congr_right fun member => ?_
      rw [Function.comp_apply, ← (others w member).same_left, ← first.same_right]
    rw [List.map_cons, distinct, distinct, repeated, ih others]

/-- A value that fits is not lost. -/
theorem Fits.not_spoils (fits : s.Fits v) (representable : v.Representable)
    (accepted : isValid c s v = true) : ¬ Spoils c s v := by
  rw [← isValid_coerce_iff representable accepted, fits.isValid_coerce representable, accepted]

/-- A steady shape loses no value by conversion. -/
theorem Steady.not_spoils (steady : s.Steady) : ∀ v, v.Representable → isValid c s v = true →
    ¬ Spoils c s v := by
  induction steady with
  | scalar scalar =>
    intro v representable accepted spoils
    exact (scalar.fits accepted).not_spoils representable accepted spoils
  | @array f parts array bare items flat ih =>
    intro v representable accepted spoils
    obtain ⟨facets, admitted⟩ := isValid_simple.mp accepted
    cases spoils with
    | listed _ _ _ listed => exact listed bare
    | @repeated _ _ s items _ found active unique repeated =>
      have same : ∀ v ∈ items, v.Alike (s.coerce v) := fun v member =>
        ((flat unique s found).fits (admitted s found v member)).alike (representable.item member)
      have content := ((isValid_facets_iff rfl).mp facets).2.2
      rw [distinct_map same] at repeated
      simp [contentIssues, active, itemCountIssues, demand, unique, repeated] at content
    | @item _ _ s items w _ found member inside =>
      exact ih s found w (representable.item member) (admitted s found w member) inside

end Shape
end ApiAtlas
