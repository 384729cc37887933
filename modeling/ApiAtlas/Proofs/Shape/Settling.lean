import ApiAtlas.Proofs.Shape.Comparison
import ApiAtlas.Proofs.Shape.Conversion

/-! Conversion settles. A value that is changed has the type of the shape from then on, and the items of an array
come out of the conversion of items, so that a second conversion finds nothing to do. A value that a node accepts is
left as it is, but for whole doubles where integers are asked for. -/
namespace ApiAtlas.Shape

inductive Converted (item : Option (Json → Json)) : TypeName → Json → Prop
  | string (s) : Converted item .string (.str s)
  | integer (n) : Converted item .integer (.int n)
  | number (n) : Converted item .number (.num n)
  | boolean (b) : Converted item .boolean (.bool b)
  | array {items} : (∀ g, item = some g → ∀ w ∈ items, ∃ v, w = g v) → Converted item .array (.arr items)
  | object (members) : Converted item .object (.obj members)

/-- A node whose items are checked by nodes, at every depth. Its members may be compositions. -/
inductive Uncomposed : Shape → Prop
  | node {f parts} : (∀ s, parts.items = some s → Uncomposed s) → Uncomposed (.simple f parts)

/-- The same value, where some whole doubles have become the integers that a node asks for. -/
inductive Restates : Shape → Json → Json → Prop
  | same (s v) : Restates s v v
  | integer {f parts x} {n : Int} : f.type = some .integer → x.value? = some (n : ℚ) →
    Restates (.simple f parts) (.num (.real x)) (.int n)
  | items {f parts s vs ws} : f.type = some .array → parts.items = some s → vs.length = ws.length →
    (∀ (i : Nat) v w, vs[i]? = some v → ws[i]? = some w → Restates s v w) →
    Restates (.simple f parts) (.arr vs) (.arr ws)

variable {c : Checks} {f : Facets} {item : Option (Json → Json)} {g : Json → Json} {s : Shape} {t : TypeName}
  {v w : Json}

/-- A value that is read becomes what it is read as, and one that cannot be read stays. -/
theorem read_cases {α : Type} {make : α → Json} (made : ∀ a, Converted item t (make a)) (read : Option α)
    (v : Json) : (read.map make).getD v = v ∨ Converted item t ((read.map make).getD v) := by
  cases read with
  | none => exact .inl rfl
  | some a => exact .inr (made a)

theorem converted_items (items : List Json) :
    Converted item .array (coerceTo .array item (.arr items)) := by
  refine .array fun g same w member => ?_
  obtain ⟨v, -, rfl⟩ := List.mem_map.mp member
  subst same
  exact ⟨v, rfl⟩

/-- A value stays as it is, or becomes one of the type. -/
theorem coerceTo_cases (t : TypeName) (item : Option (Json → Json)) (v : Json) :
    coerceTo t item v = v ∨ Converted item t (coerceTo t item v) := by
  cases t with
  | string =>
    cases v with
    | num n => exact .inr (.string _)
    | bool b => exact .inr (.string _)
    | _ => exact .inl rfl
  | integer =>
    cases v with
    | str s => exact read_cases .integer (readInteger? (trim s)) (.str s)
    | num n =>
      cases n with
      | whole n => exact .inl rfl
      | real x => exact read_cases .integer (wholeOf? x) (.num (.real x))
    | bool b => exact .inr (.integer _)
    | _ => exact .inl rfl
  | number =>
    cases v with
    | str s =>
      unfold coerceTo
      dsimp only
      split
      · exact .inr (.number _)
      split
      · split
        · exact .inr (.number _)
        · exact .inl rfl
      · exact .inl rfl
    | _ => exact .inl rfl
  | boolean =>
    cases v with
    | str s => exact read_cases .boolean (readTruth? s) (.str s)
    | num n =>
      unfold coerceTo
      dsimp only
      split
      · exact .inr (.boolean _)
      split
      · exact .inr (.boolean _)
      · exact .inl rfl
    | _ => exact .inl rfl
  | array =>
    have through {items : List Json} (made : coerceTo .array item (.arr items) = coerceTo .array item v) :
        Converted item .array (coerceTo .array item v) :=
      made ▸ converted_items items
    cases v with
    | arr items => exact .inr (through rfl)
    | str s =>
      refine .inr (@through ((fields ',' s).map fun p => .str (trim p)) ?_)
      exact congrArg Json.arr List.map_map
    | num n => exact .inr (@through [.num n] rfl)
    | bool b => exact .inr (@through [.bool b] rfl)
    | _ => exact .inl rfl
  | object =>
    cases v with
    | str s =>
      unfold coerceTo
      dsimp only
      split
      · exact .inr (.object _)
      · exact .inl rfl
    | _ => exact .inl rfl
  | null => cases v <;> exact .inl rfl

theorem Converted.hasType (converted : Converted item t w) : w.hasType t = true := by
  cases converted <;> rfl

/-- What has been converted stays, if converted items do. -/
theorem Converted.stays (settles : ∀ g, item = some g → ∀ v, g (g v) = g v) (converted : Converted item t w) :
    coerceTo t item w = w := by
  cases converted with
  | @array items came =>
    refine congrArg Json.arr ?_
    cases item with
    | none => exact List.map_id' items
    | some g =>
      refine (List.map_congr_left fun w member => ?_).trans (List.map_id' items)
      obtain ⟨v, rfl⟩ := came g rfl w member
      exact settles g rfl v
  | _ => rfl

theorem coerceTo_coerceTo (settles : ∀ g, item = some g → ∀ v, g (g v) = g v) (t : TypeName) (v : Json) :
    coerceTo t item (coerceTo t item v) = coerceTo t item v := by
  rcases coerceTo_cases t item v with same | converted
  · rw [same, same]
  · exact converted.stays settles

/-- The conversion of items is that of one of the shapes. -/
theorem exists_of_firstCoercion {parts : List Shape} (found : firstCoercion parts = some g) :
    ∃ s ∈ parts, itemCoercion s = some g := by
  induction parts with
  | nil => contradiction
  | cons s rest ih =>
    unfold firstCoercion at found
    split at found
    next h here => exact ⟨s, List.mem_cons_self, here.trans found⟩
    next =>
      obtain ⟨u, member, there⟩ := ih found
      exact ⟨u, List.mem_cons_of_mem s member, there⟩

theorem exists_of_partCoercion {parts : NodeParts Shape} (found : partCoercion parts = some g) :
    ∃ s, parts.items = some s ∧ g = s.coerce := by
  obtain ⟨_ | s, properties, additional⟩ := parts
  · contradiction
  · exact ⟨s, rfl, (Option.some.inj found).symm⟩

/-- Items that have been converted stay. The induction is on the shape: its items are converted by the shape of a
part, and that one converts items of its own. -/
theorem itemCoercion_settles (s : Shape) : ∀ g, itemCoercion s = some g → ∀ v, g (g v) = g v := by
  induction s using induct with
  | allOf parts ih | anyOf parts ih | oneOf parts ih =>
    intro g found
    obtain ⟨s, member, there⟩ := exists_of_firstCoercion found
    exact ih s member g there
  | not part => exact nofun
  | simple f parts ih =>
    intro g found v
    obtain ⟨s, there, rfl⟩ := exists_of_partCoercion found
    rw [coerce_eq s, coerce_eq s]
    cases s.primaryType with
    | none => rfl
    | some t => exact coerceTo_coerceTo (ih s (.inl there)) t v

theorem coerce_coerce (s : Shape) (v : Json) : s.coerce (s.coerce v) = s.coerce v := by
  rw [coerce_eq s, coerce_eq s]
  cases s.primaryType with
  | none => rfl
  | some t => exact coerceTo_coerceTo (itemCoercion_settles s) t v

/-- A conversion settles: a second one changes nothing, and what the first one has changed has the type. -/
theorem conversion_settles (s : Shape) (v : Json) : s.coerce (s.coerce v) = s.coerce v ∧
    (s.coerce v = v ∨ ∃ t, s.primaryType = some t ∧ (s.coerce v).hasType t = true) := by
  refine ⟨coerce_coerce s v, ?_⟩
  rw [coerce_eq]
  cases type : s.primaryType with
  | none => exact .inl rfl
  | some t =>
    rcases coerceTo_cases t (itemCoercion s) v with same | converted
    · exact .inl same
    · exact .inr ⟨t, rfl, converted.hasType⟩

/-! Accepted values. -/

/-- Without doubles a restated value is the same. -/
theorem Restates.eq_of_whole (restates : Restates s v w) (whole : v.Numbers fun n => ∃ k, n = .whole k) :
    w = v := by
  induction restates with
  | same => rfl
  | integer => simp at whole
  | @items f parts s vs ws _ _ length restated ih =>
    have inside := Json.numbers_arr_iff.mp whole
    refine congrArg Json.arr (List.ext_getElem length.symm fun i after before => ?_)
    exact ih i _ _ (List.getElem?_eq_getElem before) (List.getElem?_eq_getElem after)
      (inside _ (List.getElem_mem before))

theorem value?_of_wholeOf {x : Binary64} {n : Int} (whole : wholeOf? x = some n) : x.value? = some (n : ℚ) := by
  unfold wholeOf? at whole
  split at whole
  next inside =>
    cases whole
    have whole := (Bool.and_eq_true_iff.mp inside).1
    have finite : x.isFinite = true := by cases x <;> first | rfl | contradiction
    obtain ⟨n, value⟩ := (Binary64.isWhole_iff finite).mp whole
    rw [(Binary64.whole_of_value? value).2, value]
  next => contradiction

/-- A value of its type is left alone, but for doubles that should be integers and for arrays. -/
theorem coerceTo_of_hasType (typed : v.hasType t = true) (number : t ≠ .integer) (flat : t ≠ .array) :
    coerceTo t item v = v := by
  cases t <;> cases v <;> first | contradiction | rfl

section Node

variable {parts : NodeParts Shape}

theorem restates_number (integer : f.type = some .integer) (n : Number) :
    Restates (.simple f parts) (.num n) ((Shape.simple f parts).coerce (.num n)) := by
  rw [coerce, integer, coerceWith]
  cases n with
  | whole n => exact .same _ _
  | real x =>
    have read : coerceTo .integer (partCoercion parts) (.num (.real x)) =
        ((wholeOf? x).map Json.int).getD (.num (.real x)) := rfl
    rw [read]
    cases whole : wholeOf? x with
    | none => exact .same _ _
    | some n => exact .integer integer (value?_of_wholeOf whole)

theorem restates_array {items : List Json} (array : f.type = some .array)
    (each : ∀ s, parts.items = some s → ∀ v ∈ items, Restates s v (s.coerce v)) :
    Restates (.simple f parts) (.arr items) ((Shape.simple f parts).coerce (.arr items)) := by
  rw [coerce_array array]
  cases found : parts.items with
  | none => exact .same _ _
  | some s =>
    refine .items array found (List.length_map _).symm fun i v w before after => ?_
    rw [List.getElem?_map, before] at after
    obtain rfl := Option.some.inj after
    exact each s found v (List.mem_of_getElem? before)

end Node

/-- A node leaves what it accepts, items that its items accept included. -/
theorem Uncomposed.restates (uncomposed : s.Uncomposed) :
    ∀ v, isValid c s v = true → Restates s v (s.coerce v) := by
  induction uncomposed with
  | @node f parts _ ih =>
    intro v accepted
    by_cases null : v = .null
    · rw [null, coerce_null]
      exact .same _ _
    have present : v.isNull = false := by cases v <;> first | rfl | contradiction
    obtain ⟨facets, admitted⟩ := isValid_simple.mp accepted
    have typed := ((isValid_facets_iff present).mp facets).1
    cases type : f.type with
    | none =>
      rw [coerce, type]
      exact .same _ _
    | some t =>
      rw [type, Option.all_some] at typed
      by_cases array : t = .array
      · subst array
        obtain ⟨items, rfl⟩ : ∃ items, v = .arr items := by cases v <;> simp_all [Json.hasType]
        exact restates_array type fun s found w member => ih s found w (admitted s found w member)
      by_cases integer : t = .integer
      · subst integer
        obtain ⟨n, rfl⟩ : ∃ n, v = .num n := by cases v <;> simp_all [Json.hasType]
        exact restates_number type n
      · rw [coerce, type, coerceWith, coerceTo_of_hasType typed integer array]
        exact .same _ _

/-- What a node accepts is left alone by conversion, but for whole doubles where integers are asked for, and without
doubles it is left as it is. -/
theorem accepted_restated (uncomposed : s.Uncomposed) (accepted : isValid c s v = true) :
    Restates s v (s.coerce v) ∧ ((v.Numbers fun n => ∃ k, n = .whole k) → s.coerce v = v) := by
  have restates := uncomposed.restates v accepted
  exact ⟨restates, restates.eq_of_whole⟩

def counts : Shape :=
  .simple { type := some .array } { items := some (.simple { type := some .integer, nullable := true } {}) }

theorem uncomposed_counts : counts.Uncomposed := by
  refine .node fun s found => ?_
  obtain rfl := Option.some.inj found
  exact .node nofun

/-- The real one becomes a whole one, and the others stay. -/
theorem counts_restated :
    let v : Json := .arr [.num realOne, .null, .int 2]
    let whole : Json := .arr [.null, .int 2]
    counts.Uncomposed ∧ isValid {} counts v = true ∧ Restates counts v (counts.coerce v) ∧
      isValid {} counts whole = true ∧ counts.coerce whole = whole ∧ counts.coerce v ≠ v := by
  intro v whole
  have accepted : isValid {} counts v = true := by decide +kernel
  have wholeAccepted : isValid {} counts whole = true := by decide +kernel
  have numbers : whole.Numbers fun n => ∃ k, n = .whole k := by
    simp [whole, Json.int, Json.Numbers.null]
  refine ⟨uncomposed_counts, accepted, (accepted_restated uncomposed_counts accepted).1, wholeAccepted,
    (accepted_restated uncomposed_counts wholeAccepted).2 numbers, ?_⟩
  decide +kernel

end ApiAtlas.Shape
