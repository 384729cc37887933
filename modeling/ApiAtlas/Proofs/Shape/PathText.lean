import ApiAtlas.Shape.Check

/-! Paths read back from their texts. A text of keys behind points and indices in brackets is read from its end, and
no path is lost as long as its keys are not empty and hold no points and no brackets. -/
namespace ApiAtlas.Path

/-- An index in front of a closing bracket. -/
def index? (word : List Char) : Option Nat :=
  if word.getLast? = some ']' ∧ word.dropLast ≠ [] ∧ word.dropLast.all Char.isDigit then
    some (Nat.ofDigitChars 10 word.dropLast 0)
  else none

def scan : List Char → Option (List Char × Path)
  | [] => some ([], [])
  | c :: cs =>
    match scan cs with
    | none => none
    | some (word, path) =>
      if c = '.' then some ([], .key (String.ofList word) :: path)
      else if c = '[' then (index? word).map fun i => ([], .index i :: path)
      else some (c :: word, path)

/-- The path that a text stands for. A key at the beginning has no point. -/
def ofText? (s : String) : Option Path :=
  match scan s.toList with
  | none => none
  | some ([], path) => some path
  | some (word, path) => some (.key (String.ofList word) :: path)

/-- A key that can be told apart in the text of a path. -/
structure Plain (name : String) : Prop where
  nonempty : name ≠ ""
  solid : ∀ c ∈ name.toList, c ≠ '.' ∧ c ≠ '[' ∧ c ≠ ']'

instance (name : String) : Decidable (Plain name) :=
  decidable_of_iff (name ≠ "" ∧ name.toList.all fun c => c ≠ '.' ∧ c ≠ '[' ∧ c ≠ ']')
    ⟨fun ⟨nonempty, solid⟩ => ⟨nonempty, by simpa using solid⟩,
      fun plain => ⟨plain.nonempty, by simpa using plain.solid⟩⟩

def mark : Step → List Char
  | .key name => '.' :: name.toList
  | .index i => '[' :: (toString i).toList ++ [']']

variable {path : Path} {word rest cs : List Char}

theorem isDigit_toString {i : Nat} {c : Char} (member : c ∈ (toString i).toList) : c.isDigit = true := by
  rw [Nat.toString_eq_repr, Nat.toList_repr] at member
  exact Nat.isDigit_of_mem_toDigits (by decide) (by decide) member

theorem index?_bracket (i : Nat) : index? ((toString i).toList ++ [']']) = some i := by
  have digits : (toString i).toList.all Char.isDigit = true := List.all_eq_true.mpr fun c => isDigit_toString
  have value : Nat.ofDigitChars 10 (toString i).toList 0 = i := by
    rw [Nat.toString_eq_repr, Nat.toList_repr]
    exact Nat.ofDigitChars_toDigits (by decide) (by decide)
  simp only [index?, List.getLast?_concat, List.dropLast_concat, digits, value]
  simp

theorem scan_solid (solid : ∀ c ∈ cs, c ≠ '.' ∧ c ≠ '[') (scanned : scan rest = some (word, path)) :
    scan (cs ++ rest) = some (cs ++ word, path) := by
  induction cs with
  | nil => exact scanned
  | cons c cs ih =>
    obtain ⟨⟨noPoint, noBracket⟩, others⟩ := List.forall_mem_cons.mp solid
    simp [scan, ih others, noPoint, noBracket]

theorem solid_toString (i : Nat) : ∀ c ∈ (toString i).toList ++ [']'], c ≠ '.' ∧ c ≠ '[' := by
  intro c member
  rcases List.mem_append.mp member with digit | bracket
  · have isDigit := isDigit_toString digit
    constructor <;> rintro rfl <;> contradiction
  · obtain rfl := List.mem_singleton.mp bracket
    decide

/-- In front of steps one more step is read. -/
theorem scan_mark {step : Step} (plain : ∀ name, step = .key name → Plain name)
    (scanned : scan rest = some ([], path)) : scan (mark step ++ rest) = some ([], step :: path) := by
  cases step with
  | key name =>
    have solid := fun c member => ((plain name rfl).solid c member).imp_right And.left
    simp [mark, scan, scan_solid solid scanned]
  | index i =>
    have read := scan_solid (solid_toString i) scanned
    simp only [mark, List.cons_append, scan, read, List.append_nil, index?_bracket]
    rfl

theorem scan_marks (plain : ∀ name, .key name ∈ path → Plain name) :
    scan (path.flatMap mark) = some ([], path) := by
  induction path with
  | nil => rfl
  | cons step path ih =>
    rw [List.flatMap_cons]
    refine scan_mark (fun name same => plain name (same ▸ List.mem_cons_self)) ?_
    exact ih fun name member => plain name (List.mem_cons_of_mem step member)

def extend (out : String) : Step → String
  | .key name => if out = "" then name else out ++ "." ++ name
  | .index i => out ++ "[" ++ toString i ++ "]"

theorem text_eq (path : Path) : path.text = path.foldl extend "" := rfl

/-- A text that has begun goes on with a mark for each step. -/
theorem toList_extended {out : String} (begun : out ≠ "") :
    (path.foldl extend out).toList = out.toList ++ path.flatMap mark := by
  induction path generalizing out with
  | nil => simp
  | cons step path ih =>
    have more : extend out step ≠ "" ∧ (extend out step).toList = out.toList ++ mark step := by
      cases step <;> simp [extend, mark, begun]
    rw [List.foldl_cons, ih more.1, more.2, List.flatMap_cons, List.append_assoc]

/-- Only keys without a letter leave no text. -/
theorem text_eq_empty_iff : path.text = "" ↔ ∀ step ∈ path, step = .key "" := by
  induction path with
  | nil => simp [text]
  | cons step path ih =>
    rw [List.forall_mem_cons, ← ih, text_eq, List.foldl_cons]
    by_cases silent : extend "" step = ""
    · have unnamed : step = .key "" := by
        cases step with
        | key name => simpa [extend] using silent
        | index i => simp [extend] at silent
      rw [silent, ← text_eq]
      simp [unnamed]
    · have named : step ≠ .key "" := by
        rintro rfl
        exact silent rfl
      have begun : path.foldl extend (extend "" step) ≠ "" := by
        rw [Ne, ← String.toList_inj, toList_extended silent]
        simp [silent]
      simp [begun, named]

/-- A path is read back from its text. -/
theorem ofText?_text (plain : ∀ name, .key name ∈ path → Plain name) : ofText? path.text = some path := by
  cases path with
  | nil => rfl
  | cons step path =>
    have marks : scan (path.flatMap mark) = some ([], path) :=
      scan_marks fun name member => plain name (List.mem_cons_of_mem step member)
    rw [ofText?, text_eq, List.foldl_cons]
    cases step with
    | key name =>
      have first : Plain name := plain name List.mem_cons_self
      have solid := fun c member => (first.solid c member).imp_right And.left
      obtain ⟨c, cs, letters⟩ : ∃ c cs, name.toList = c :: cs :=
        List.exists_cons_of_ne_nil (by simpa using first.nonempty)
      have read := scan_solid solid marks
      have whole : (path.foldl extend (extend "" (.key name))).toList = name.toList ++ path.flatMap mark :=
        toList_extended (by simpa [extend] using first.nonempty)
      rw [whole, read, List.append_nil, letters]
      simp only
      rw [← letters, String.ofList_toList]
    | index i =>
      have read : scan (mark (.index i) ++ path.flatMap mark) = some ([], .index i :: path) :=
        scan_mark nofun marks
      have whole : (path.foldl extend (extend "" (.index i))).toList = mark (.index i) ++ path.flatMap mark := by
        rw [toList_extended (by simp [extend])]
        simp [extend, mark]
      rw [whole, read]

example : ofText? "user.tags[12]" = some [.key "user", .key "tags", .index 12] := by cbv

end ApiAtlas.Path
