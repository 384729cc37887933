import ApiAtlas.Proofs.Shape.Comparison
import ApiAtlas.Proofs.Shape.Conversion
import ApiAtlas.Shape.Lower

/-! What schemas admit that only list values or types. -/
namespace ApiAtlas.Shape

variable {c : Checks} {v : Json} {type : Option TypeName} {nullable : Bool} {enum : List Json}

/-- A node that asks for a type and lists values. -/
def listing (type : Option TypeName) (nullable : Bool) (enum : List Json) : Shape :=
  .simple { type, nullable, enum } {}

theorem isNull_iff : v.isNull = true ↔ v = .null := by cases v <;> simp [Json.isNull]

theorem isValid_listing_null_iff : isValid c (listing type nullable enum) .null = true ↔
    nullable = true ∨ type = none ∨ type = some .null ∨ .null ∈ enum := by
  rw [listing, isValid_null]
  simp [admitsNull, isNull_iff, or_assoc]

theorem isValid_listing_iff (given : v ≠ .null) : isValid {} (listing type nullable enum) v = true ↔
    type.all (Json.hasType · v) = true ∧ (enum ≠ [] → ∃ e ∈ enum, e.same v = true) := by
  have present : v.isNull = false := Bool.eq_false_iff.mpr (mt isNull_iff.mp given)
  have content : contentIssues {} { type, nullable, enum } {} v [] = [] := by
    cases v <;> simp [contentIssues, stringIssues, numberIssues, itemCountIssues, limit, demand, missingIssues,
      memberIssues]
  rw [listing, isValid_facets_iff present, content]
  simp

/-! Enumerations. The first listed value decides the type, and a constant counts where nothing is listed. -/

/-- A value is of the sort that the first of the listed values stands for: a number without a fraction for a whole
number, and any value for null, for lists and for objects. -/
def OfSort : Json → Json → Prop
  | .str _, v => ∃ s, v = .str s
  | .bool _, v => ∃ b, v = .bool b
  | .num (.whole _), v => ∃ (n : Number) (k : Int), v = .num n ∧ n.value? = some (k : ℚ)
  | .num (.real _), v => ∃ n, v = .num n
  | _, _ => True

theorem ofSort_iff (genuine : v.Genuine) (first : Json) :
    (Keywords.valueType first).all (Json.hasType · v) = true ↔ OfSort first v := by
  cases first with
  | str | bool => cases v <;> simp [Keywords.valueType, OfSort, Json.hasType]
  | num n =>
    cases n with
    | real => cases v <;> simp [Keywords.valueType, OfSort, Json.hasType]
    | whole =>
      cases v with
      | num n =>
        cases n with
        | whole n => simp [Keywords.valueType, OfSort, Json.hasType, Number.value?]
        | real x =>
          have finite := (Json.numbers_num_iff.mp genuine).1
          simp [Keywords.valueType, OfSort, Json.hasType, Number.value?, Binary64.isWhole_iff finite]
      | _ => simp [Keywords.valueType, OfSort, Json.hasType]
  | _ => simp [Keywords.valueType, OfSort]

/-- The values that an enumeration lists; without any, a constant is the one. -/
def listed (values : List Json) (constant : Option Json) : List Json :=
  if values = [] then constant.toList else values

theorem ofSchema_enumeration (values : List Json) (constant : Option Json) :
    ofSchema { keywords := { enum := values, const := constant } } =
      listing ((listed values constant).head?.bind Keywords.valueType) false (listed values constant) := by
  cases values <;> rfl

/-- Values without numbers in them are compared as wholes. -/
theorem same_iff_equal {e : Json} (left : e.Genuine) (right : v.Genuine)
    (flat : v.isCollection = true → v.Numbers fun _ => False) (apart : ¬ e.Confused v) :
    e.same v = true ↔ e.equal v = true := by
  have seen : ¬ e.Overlooked v := by
    rintro ⟨collection, equal, kinds⟩
    have within : v.isCollection = true := by cases e <;> cases v <;> first | contradiction | rfl
    have alike := Json.equalBy_congr (p := Number.equal) (q := Number.sameKind) (fun _ _ _ => False.elim)
      left (flat within)
    exact Bool.false_ne_true (kinds.symm.trans (alike.symm.trans equal))
  rw [Json.same_iff left right]
  simp [seen, apart]

theorem equal_null_iff {e : Json} : e.equal .null = true ↔ e = .null := by
  cases e <;> simp [Json.equal, Json.equalBy]

/-- An enumeration admits the listed values of the sort of the first one, and null if it is listed. Nothing is said
of a null that is not listed where the first value has no type, nor of numbers that are confused with listed ones. -/
theorem enumeration_admits_iff {values : List Json} {constant : Option Json} (genuine : v.Genuine)
    (all : ∀ e ∈ listed values constant, e.Genuine) (flat : v.isCollection = true → v.Numbers fun _ => False)
    (decided : v = .null → .null ∈ listed values constant ∨
      ∀ first, (listed values constant).head? = some first → first.isCollection = false)
    (apart : ∀ e ∈ listed values constant, ¬ e.Confused v) :
    isValid {} (ofSchema { keywords := { enum := values, const := constant } }) v = true ↔
      listed values constant = [] ∨
        (v = .null ∨ ∀ first, (listed values constant).head? = some first → OfSort first v) ∧
        ∃ e ∈ listed values constant, e.equal v = true := by
  rw [ofSchema_enumeration]
  generalize listed values constant = enum at all decided apart ⊢
  rcases eq_or_ne v .null with rfl | given
  · cases enum with
    | nil => simp [isValid_listing_null_iff]
    | cons first rest =>
      have untyped : Keywords.valueType first = none ∨ Keywords.valueType first = some .null →
          .null ∈ first :: rest := by
        intro untyped
        rcases decided rfl with member | flat
        · exact member
        · have flat := flat first rfl
          cases first with
          | null => exact List.mem_cons_self
          | num n => cases n <;> simp [Keywords.valueType] at untyped
          | _ => simp [Keywords.valueType, Json.isCollection] at untyped flat
      rw [isValid_listing_null_iff]
      simp only [List.head?_cons, Option.bind_some, Bool.false_eq_true, false_or, ← or_assoc, equal_null_iff,
        exists_eq_right, true_or, true_and, reduceCtorEq]
      exact or_iff_right_of_imp untyped
  · have same : (∃ e ∈ enum, e.same v = true) ↔ ∃ e ∈ enum, e.equal v = true :=
      exists_congr fun e => and_congr_right fun member =>
        same_iff_equal (all e member) genuine flat (apart e member)
    rw [isValid_listing_iff given, same]
    cases enum <;> simp [given, ofSort_iff genuine]

/-- Settings of one, auto or nothing. The real one is equal to the whole one and is admitted; auto is listed, but no
number, and is not. -/
theorem settings_admit :
    let settings : List Json := [.int 1, .str "auto", .null]
    let off : Option Json := some (.str "off")
    let admits := isValid {} (ofSchema { keywords := { enum := settings, const := off } })
    (∀ e ∈ listed settings off, e.Genuine ∧ ¬ e.Confused (.num realOne)) ∧ (Json.num realOne).Genuine ∧
      admits (.num realOne) = true ∧ admits .null = true ∧ admits (.str "auto") = false := by
  intro settings off admits
  have equal : (Json.int 1).equal (.num realOne) = true := equal_realOne
  have all : ∀ e ∈ listed settings off, e.Genuine := by
    simp [listed, settings, Json.int, Number.Genuine, Json.Numbers.str, Json.Numbers.null]
  have apart : ∀ e ∈ listed settings off, ¬ e.Confused (.num realOne) := by
    simp only [listed, settings, reduceCtorEq, if_false, List.forall_mem_cons]
    exact ⟨Json.not_confused_of_equal equal, by simp [Json.confused_iff]⟩
  have one : (Json.num realOne).Genuine := .num genuine_realOne
  have null : Json.null ∈ listed settings off := by simp [listed, settings]
  refine ⟨fun e member => ⟨all e member, apart e member⟩, one, ?_, ?_, ?_⟩
  · have admission := enumeration_admits_iff one all (by simp [Json.isCollection]) (by simp) apart
    refine admission.mpr (.inr ⟨.inr fun first found => ?_, .int 1, List.mem_cons_self, equal⟩)
    obtain rfl : Json.int 1 = first := Option.some.inj found
    exact ⟨realOne, 1, rfl, by simp [value?_realOne]⟩
  · have admission := enumeration_admits_iff .null all (by simp [Json.isCollection]) (by simp [null])
      (by simp [Json.confused_iff])
    exact admission.mpr (.inr ⟨.inl rfl, .null, null, rfl⟩)
  · have admission := enumeration_admits_iff (.str "auto") all (by simp [Json.isCollection]) (by simp)
      (by simp [Json.confused_iff])
    refine Bool.eq_false_iff.mpr fun admitted => ?_
    rcases admission.mp admitted with none | ⟨sort, -⟩
    · exact absurd none (List.cons_ne_nil _ _)
    · obtain ⟨n, -, same, -⟩ := sort.resolve_left Json.noConfusion _ rfl
      simp at same

/-- Not every listed value is admitted: one is listed, but it is no string as the first value is. -/
theorem number_after_string : ¬ ∀ (values : List Json) (constant : Option Json) (v : Json), values ≠ [] ∨
    constant ≠ none → (∀ e ∈ values ++ constant.toList, e.Genuine) → v.Genuine →
    (v.isCollection = true → v.Numbers fun _ => False) →
    (isValid {} (ofSchema { keywords := { enum := values, const := constant } }) v = true ↔
      (values ≠ [] → ∃ e ∈ values, e.equal v = true) ∧ ∀ k, constant = some k → k.equal v = true) := by
  intro claim
  have admitted := (claim [.str "a", .int 1] none (.int 1) (.inl (List.cons_ne_nil _ _))
    (by simp [Json.int, Number.Genuine, Json.Numbers.str]) (.num trivial) nofun).mpr
    ⟨fun _ => ⟨.int 1, by simp, by decide +kernel⟩, nofun⟩
  have refused : isValid {} (ofSchema { keywords := { enum := [.str "a", .int 1] } }) (.int 1) = false := by
    decide +kernel
  exact Bool.false_ne_true (refused.symm.trans admitted)

/-! Lists of types. -/

theorem ofSchema_types (ts : List TypeName) :
    ofSchema { keywords := { type := some (.many ts) } } =
      listing ((ts.filter (· ≠ .null)).head?.or (if .null ∈ ts then some .null else none)) (.null ∈ ts) [] := by
  let declared := Keywords.declaredType { type := some (.many ts) }
  have node : ofSchema { keywords := { type := some (.many ts) } } =
      listing (declared.1.or none) (false || declared.2) [] := rfl
  have spelled : declared =
      ((ts.filter (· ≠ .null)).head?.or (if .null ∈ ts then some .null else none), decide (.null ∈ ts)) := by
    simp only [declared, Keywords.declaredType, List.head?_filter, List.contains_eq_mem, decide_eq_true_eq]
    cases ts.find? (· ≠ .null) <;> rfl
  rw [node, spelled, Option.or_none, Bool.false_or]

/-- A value of a type that has no other type, except that integers are numbers. -/
def typical : TypeName → Json
  | .string => .str ""
  | .number => .num (.real (.finite false 1))
  | .integer => .num (.whole 0)
  | .boolean => .bool true
  | .array => .arr []
  | .object => .obj []
  | .null => .null

theorem hasType_typical_iff {t u : TypeName} :
    (typical t).hasType u = true ↔ t = u ∨ t = .integer ∧ u = .number := by
  have fraction : (Binary64.finite false 1).isWhole = false := by decide +kernel
  cases t <;> cases u <;> simp [typical, Json.hasType, fraction]

/-- Every value of a type has another type only where integers are numbers. -/
theorem hasType_imp_iff {t u : TypeName} : (∀ v : Json, v.hasType t = true → v.hasType u = true) ↔
    t = u ∨ t = .integer ∧ u = .number := by
  constructor
  · intro all
    exact hasType_typical_iff.mp (all (typical t) (hasType_typical_iff.mpr (.inl rfl)))
  · rintro (rfl | ⟨rfl, rfl⟩) v typed
    · exact typed
    · cases v with
      | num n => rfl
      | _ => contradiction

theorem hasType_null_iff : v.hasType .null = true ↔ v = .null := by
  cases v with
  | num n => cases n <;> simp [Json.hasType]
  | _ => simp [Json.hasType]

theorem ne_null_of_first {ts : List TypeName} {t : TypeName}
    (first : (ts.filter (· ≠ .null)).head? = some t) : t ∈ ts ∧ t ≠ .null := by
  simpa using List.mem_of_mem_head? first

theorem isValid_types_iff {ts : List TypeName} (nonempty : ts ≠ []) :
    isValid {} (ofSchema { keywords := { type := some (.many ts) } }) v = true ↔
      v = .null ∧ .null ∈ ts ∨ ∃ t, (ts.filter (· ≠ .null)).head? = some t ∧ v.hasType t = true := by
  rw [ofSchema_types]
  cases first : (ts.filter (· ≠ .null)).head? with
  | none =>
    have null : .null ∈ ts := by
      obtain ⟨t, rest, rfl⟩ := List.exists_cons_of_ne_nil nonempty
      have all : ∀ u ∈ t :: rest, u = .null := by simpa [List.head?_eq_none_iff] using first
      exact all t List.mem_cons_self ▸ List.mem_cons_self
    rcases eq_or_ne v .null with rfl | given
    · simp [isValid_listing_null_iff, null]
    · have untyped : Json.hasType .null v = false := by simpa [given] using hasType_null_iff (v := v)
      simp [isValid_listing_iff given, null, given, untyped]
  | some t =>
    have other := (ne_null_of_first first).2
    rcases eq_or_ne v .null with rfl | given
    · have typed : Json.hasType t .null = false := by cases t <;> first | contradiction | rfl
      simp [isValid_listing_null_iff, other, typed]
    · simp [isValid_listing_iff given, given]

/-- A list of types admits the values of the first type in it that is not null, and null if it is in the list. So it
admits each of its types exactly if every other one is null, or integer beside a first type number. -/
theorem types_admit_iff {ts : List TypeName} (nonempty : ts ≠ []) :
    (∀ v, isValid {} (ofSchema { keywords := { type := some (.many ts) } }) v = true ↔
      v = .null ∧ .null ∈ ts ∨ ∃ t, (ts.filter (· ≠ .null)).head? = some t ∧ v.hasType t = true) ∧
    ((∀ v, isValid {} (ofSchema { keywords := { type := some (.many ts) } }) v = true ↔
      ∃ t ∈ ts, v.hasType t = true) ↔
      ∀ first, (ts.filter (· ≠ .null)).head? = some first →
        ∀ t ∈ ts, t = .null ∨ t = first ∨ t = .integer ∧ first = .number) := by
  refine ⟨fun v => isValid_types_iff nonempty, ?_⟩
  simp only [isValid_types_iff nonempty]
  constructor
  · intro all first found t member
    by_cases null : t = .null
    · exact .inl null
    refine .inr (hasType_imp_iff.mp fun v typed => ?_)
    rcases (all v).mpr ⟨t, member, typed⟩ with ⟨rfl, -⟩ | ⟨u, same, typed⟩
    · cases t <;> contradiction
    · obtain rfl := Option.some.inj (found.symm.trans same)
      exact typed
  · intro covered v
    constructor
    · rintro (⟨rfl, null⟩ | ⟨t, found, typed⟩)
      · exact ⟨.null, null, rfl⟩
      · exact ⟨t, (ne_null_of_first found).1, typed⟩
    · rintro ⟨t, member, typed⟩
      by_cases null : t = .null
      · subst null
        exact .inl ⟨hasType_null_iff.mp typed, member⟩
      · have kept : t ∈ ts.filter (· ≠ .null) := by simp [member, null]
        obtain ⟨first, found⟩ := Option.isSome_iff_exists.mp (List.isSome_head?.mpr (List.ne_nil_of_mem kept))
        exact .inr ⟨first, found, hasType_imp_iff.mpr ((covered first found t member).resolve_left null) v typed⟩

/-- A number, a whole one or nothing: each of the types is admitted. -/
theorem amounts_admit :
    let amounts : List TypeName := [.null, .number, .integer]
    amounts ≠ [] ∧ (∀ v, isValid {} (ofSchema { keywords := { type := some (.many amounts) } }) v = true ↔
      ∃ t ∈ amounts, v.hasType t = true) := by
  intro amounts
  refine ⟨List.cons_ne_nil _ _, (types_admit_iff (List.cons_ne_nil _ _)).2.mpr fun first found => ?_⟩
  obtain rfl : TypeName.number = first := Option.some.inj found
  decide

/-- Not each of the types is admitted: a text or a whole number is asked for, and a whole number is refused. -/
theorem integer_after_string : ¬ ∀ (ts : List TypeName) (v : Json), ts ≠ [] →
    (isValid {} (ofSchema { keywords := { type := some (.many ts) } }) v = true ↔ ∃ t ∈ ts, v.hasType t = true) := by
  intro claim
  have admitted := (claim [.string, .integer] (.int 5) (List.cons_ne_nil _ _)).mpr ⟨.integer, by simp, rfl⟩
  have refused : isValid {} (ofSchema { keywords := { type := some (.many [.string, .integer]) } }) (.int 5) =
      false := by decide +kernel
  exact Bool.false_ne_true (refused.symm.trans admitted)

end ApiAtlas.Shape
