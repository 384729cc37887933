import ApiAtlas.Proofs.Number.Ceiling
import ApiAtlas.Proofs.Shape.Conversion
import ApiAtlas.Shape.Example

/-! Which limits are kept by the values that are made for texts and numbers. The text for a format has the format if
there is a text for it. An integer goes beyond a minimum that is not to be reached, but a number is the minimum
itself. -/
namespace ApiAtlas

/-- The node of a text or a number that declares no example and asks for a format and a minimum at most, where the
minimum is less than 2⁵³ in size. -/
structure Facets.Modest (f : Facets) : Prop where
  type : f.type = some .string ∨ f.type = some .integer ∨ f.type = some .number
  undeclared : Shape.declaredExample f = none
  minimum : ∀ m, f.minimum = some m → ∃ q, m.value? = some q ∧ |q| < 2 ^ 53
  maximum : f.maximum = none
  multipleOf : f.multipleOf = none
  minLength : f.minLength = none
  maxLength : f.maxLength = none
  pattern : f.pattern = none

namespace Shape

open Binary64

seal one beyond

variable {f : Facets} {parts : NodeParts Shape} {m v : Binary64} {p q : ℚ} {path : Path}

/-- Of the formats that are checked only one has no text of its own. -/
theorem accepts_exampleText_iff (name : String) :
    Format.accepts name (exampleText (some name)) = true ↔ name ≠ "ipv6" := by
  unfold exampleText
  split
  case h_8 =>
    by_cases eight : name = "ipv6"
    · subst eight
      decide
    · simp_all [Format.accepts]
  all_goals
    rename_i known
    cases known
    decide

/-- The integer for a minimum is the ceiling, or the next one if the minimum is whole and not to be reached. -/
theorem exampleInteger_eq (given : f.minimum = some m) (value : m.value? = some q) (small : |q| < 2 ^ 53) :
    exampleInteger f = if f.exclusiveMinimum = true ∧ (⌈q⌉ : ℚ) = q then ⌈q⌉ + 1 else ⌈q⌉ := by
  have up := value?_ceil value small.le
  have short := natAbs_ceil_le small.le
  rw [exampleInteger, given]
  simp only [toWord_of_value? up short, eqv_eq up value, Bool.and_eq_true, decide_eq_true_eq]
  have room : (Nat.pow 2 63 - 1 : Int) = 2 ^ 63 - 1 := by decide
  rw [room, min_eq_left (by omega)]

/-- It is not rounded as a double, and keeps the minimum. -/
theorem exampleInteger_spec (given : f.minimum = some m) (value : m.value? = some q) (small : |q| < 2 ^ 53) :
    (exampleInteger f).natAbs ≤ 2 ^ 53 ∧
      if f.exclusiveMinimum then q < exampleInteger f else q ≤ exampleInteger f := by
  have above : q ≤ ⌈q⌉ := Int.le_ceil q
  have short := natAbs_ceil_le small.le
  rw [exampleInteger_eq given value small]
  split
  next reached =>
    obtain ⟨exclusive, whole⟩ := reached
    have below : (⌈q⌉ : ℚ) < 2 ^ 53 := by
      rw [whole]
      exact (abs_lt.mp small).2
    have below : ⌈q⌉ < 2 ^ 53 := by exact_mod_cast below
    refine ⟨by omega, ?_⟩
    simp only [exclusive, if_true, Int.cast_add, Int.cast_one]
    exact above.trans_lt (lt_add_one _)
  next other =>
    refine ⟨short, ?_⟩
    split
    next exclusive => exact lt_of_le_of_ne above fun whole => other ⟨exclusive, whole.symm⟩
    next => exact above

theorem numberIssues_eq (modest : f.Modest) (v : Binary64) (path : Path) :
    numberIssues f v path = limit f.minimum
      (fun m => !(if f.exclusiveMinimum then v.le m else v.lt m)) path .range fun m =>
        "must be " ++ (if f.exclusiveMinimum then "greater than" else "at least") ++ " " ++ Layout.plain.write m := by
  simp only [numberIssues, modest.maximum, modest.multipleOf, limit, List.append_nil]

/-- Where there is no other limit, a number has to keep the minimum. -/
theorem numberIssues_eq_nil_iff (modest : f.Modest) (given : f.minimum = some m) (least : m.value? = some q)
    (value : v.value? = some p) :
    numberIssues f v path = [] ↔ if f.exclusiveMinimum then q < p else q ≤ p := by
  rw [numberIssues_eq modest, limit_eq_nil_iff, given]
  cases f.exclusiveMinimum <;> simp [le_eq value least, lt_eq value least]

/-- A text or a number of the type has to keep the limits. -/
theorem isValid_scalar_iff (modest : f.Modest) {w : Json} (scalar : (∃ s, w = .str s) ∨ ∃ n, w = .num n)
    (typed : f.type.all (Json.hasType · w) = true) :
    isValid {} (.simple f parts) w = true ↔ contentIssues {} f {} w [] = [] := by
  have unlisted : f.enum = [] := by
    have undeclared := modest.undeclared
    simp only [declaredExample, Option.or_eq_none_iff, List.head?_eq_none_iff] at undeclared
    exact undeclared.2.2
  have present : w.isNull = false := by rcases scalar with ⟨s, rfl⟩ | ⟨n, rfl⟩ <;> rfl
  have admitted : parts.Admits (fun s v => isValid {} s v = true) w := by
    rcases scalar with ⟨s, rfl⟩ | ⟨n, rfl⟩ <;> trivial
  rw [isValid_simple, and_iff_left admitted, isValid_facets_iff present]
  simp [typed, unlisted]

theorem isValid_sample_text_iff (modest : f.Modest) (type : f.type = some .string) :
    isValid {} (.simple f parts) (sample (.simple f parts)) = true ↔ f.format ≠ some "ipv6" := by
  have made : sample (.simple f parts) = .str (exampleText f.format) := by
    simp [sample, exampleAt, modest.undeclared, exampleDepth, type]
  have single : contentIssues {} f {} (.str (exampleText f.format)) [] =
      limit f.format (fun name => Format.accepts name (exampleText f.format)) [] .format
        fun name => "must be a valid " ++ name := by
    simp [contentIssues, stringIssues, modest.minLength, modest.maxLength, modest.pattern, limit]
  rw [made, isValid_scalar_iff modest (.inl ⟨_, rfl⟩) (by rw [type]; rfl), single, limit_eq_nil_iff]
  cases f.format with
  | none => simp
  | some name => simp [accepts_exampleText_iff]

theorem isValid_sample_integer (modest : f.Modest) (type : f.type = some .integer) :
    isValid {} (.simple f parts) (sample (.simple f parts)) = true := by
  have made : sample (.simple f parts) = .num (.whole (exampleInteger f)) := by
    simp [sample, exampleAt, modest.undeclared, exampleDepth, type, Json.int]
  rw [made, isValid_scalar_iff modest (.inr ⟨_, rfl⟩) (by rw [type]; rfl)]
  change numberIssues f (.ofInt (exampleInteger f)) [] = []
  cases given : f.minimum with
  | none => rw [numberIssues_eq modest, given]; rfl
  | some m =>
    obtain ⟨q, least, small⟩ := modest.minimum m given
    obtain ⟨short, kept⟩ := exampleInteger_spec given least small
    exact (numberIssues_eq_nil_iff modest given least (value?_ofInt short)).mpr kept

/-- The minimum is its own example, and is refused if it is not to be reached. -/
theorem isValid_sample_number_iff (modest : f.Modest) (type : f.type = some .number) :
    isValid {} (.simple f parts) (sample (.simple f parts)) = true ↔
      ¬ (f.exclusiveMinimum = true ∧ f.minimum ≠ none) := by
  have made : sample (.simple f parts) = .num (.real (exampleNumber f)) := by
    simp [sample, exampleAt, modest.undeclared, exampleDepth, type]
  rw [made, isValid_scalar_iff modest (.inr ⟨_, rfl⟩) (by rw [type]; rfl)]
  change numberIssues f (exampleNumber f) [] = [] ↔ _
  cases given : f.minimum with
  | none => simp [numberIssues_eq modest, given, limit]
  | some m =>
    obtain ⟨q, least, -⟩ := modest.minimum m given
    have same : exampleNumber f = m := by
      obtain ⟨s, n, rfl, -⟩ := value?_eq_some_iff.mp least
      rw [exampleNumber, given]
      rfl
    rw [same, numberIssues_eq_nil_iff modest given least least]
    cases f.exclusiveMinimum <;> simp

/-- The value for a text or a number is accepted, unless a text is to be an address of eight groups or a number must
not reach its minimum. -/
theorem isValid_sample_iff (modest : f.Modest) :
    isValid {} (.simple f parts) (sample (.simple f parts)) = true ↔
      ¬ (f.type = some .string ∧ f.format = some "ipv6") ∧
      ¬ (f.type = some .number ∧ f.exclusiveMinimum = true ∧ f.minimum ≠ none) := by
  rcases modest.type with type | type | type
  · simp [isValid_sample_text_iff modest type, type]
  · simp [isValid_sample_integer modest type, type]
  · simp [isValid_sample_number_iff modest type, type]

def aboveTen (type : TypeName) : Facets := { type := some type, minimum := some (.ofInt 10), exclusiveMinimum := true }

theorem modest_aboveTen {type : TypeName} (numeric : type = .integer ∨ type = .number) : (aboveTen type).Modest where
  type := .inr (numeric.imp (congrArg some) (congrArg some))
  undeclared := rfl
  minimum := by
    rintro _ ⟨⟩
    refine ⟨_, value?_ofInt (by decide), ?_⟩
    norm_num
  maximum := rfl
  multipleOf := rfl
  minLength := rfl
  maxLength := rfl
  pattern := rfl

/-- The integer for it is eleven, but the number is ten. -/
theorem samples_above_ten : (aboveTen .integer).Modest ∧ (aboveTen .number).Modest ∧
    isValid {} (.simple (aboveTen .integer) {}) (sample (.simple (aboveTen .integer) {})) = true ∧
    isValid {} (.simple (aboveTen .number) {}) (sample (.simple (aboveTen .number) {})) = false := by
  have integer : (aboveTen .integer).Modest := modest_aboveTen (.inl rfl)
  have number : (aboveTen .number).Modest := modest_aboveTen (.inr rfl)
  refine ⟨integer, number, ?_, ?_⟩
  · rw [isValid_sample_iff integer]
    simp [aboveTen]
  · rw [Bool.eq_false_iff, ne_eq, isValid_sample_iff number]
    simp [aboveTen]

/-- So it is not accepted, though nothing else is asked of it. -/
theorem ten_refused : ¬ ∀ (f : Facets) (parts : NodeParts Shape), f.Modest →
    isValid {} (.simple f parts) (sample (.simple f parts)) = true := by
  intro claim
  have accepted := claim (aboveTen .number) {} (modest_aboveTen (.inr rfl))
  have refused : isValid {} (.simple (aboveTen .number) {}) (sample (.simple (aboveTen .number) {})) = false := by
    decide +kernel
  exact Bool.false_ne_true (refused.symm.trans accepted)

end Shape
end ApiAtlas
