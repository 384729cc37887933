import ApiAtlas.Graph.Query.Parser
import Mathlib.Data.List.TakeWhile

/-! How a text falls into tokens. Up to the place where reading ends, every character lies in one token or in
one gap, and the gaps hold nothing but blanks, commas, byte order marks and comments. Reading ends with the
text, or where no token can be read; the error then lies in the text or at its end. -/
namespace ApiAtlas.Graph

/-- The line and the column of an error name an offset of a text: it lies behind so many lines, each with a
newline, and so many characters of the next line, which may be all of them. -/
def SyntaxError.Marks (e : SyntaxError) (text : List Char) (offset : Nat) : Prop :=
  ∃ (before after : List (List Char)) (line : List Char) (column : Nat),
    text.splitOn '\n' = before ++ line :: after ∧ column ≤ line.length ∧
      e.line = before.length + 1 ∧ e.column = column + 1 ∧
      offset = before.flatten.length + before.length + column

namespace Token

/-- What is ignored by itself. -/
def blanks : List Char := [' ', '\t', '\n', '\r', ',', '\ufeff']

/-- Blanks and comments in front of the rest of a text. A comment reaches to the end of its line: there a
newline stands, or the text ends. -/
inductive Ignorable (rest : List Char) : List Char → Prop
  | nil : Ignorable rest []
  | blank {c cs} : c ∈ blanks → Ignorable rest cs → Ignorable rest (c :: cs)
  | comment {note cs} : '\n' ∉ note → (∀ c ∈ (cs ++ rest).head?, c = '\n') → Ignorable rest cs →
      Ignorable rest ('#' :: (note ++ cs))

/-- A string behind its opening quote, up to the first quote without a backslash. No line ends in it, unless
behind a backslash. -/
inductive Quoted : List Char → Prop
  | close : Quoted ['"']
  | escaped (c) {cs} : Quoted cs → Quoted ('\\' :: c :: cs)
  | plain {c cs} : c ∉ ['"', '\\', '\n', '\r'] → Quoted cs → Quoted (c :: cs)

inductive BlockQuoted : List Char → Prop
  | close : BlockQuoted ['"', '"', '"']
  | escaped {cs} : BlockQuoted cs → BlockQuoted ('\\' :: '"' :: '"' :: '"' :: cs)
  | plain {c cs} : ¬ ['\\', '"', '"', '"'] <+: c :: cs → ¬ ['"', '"', '"'] <+: c :: cs →
      BlockQuoted cs → BlockQuoted (c :: cs)

inductive StringText : List Char → Prop
  | line {cs} : Quoted cs → StringText ('"' :: cs)
  | block {cs} : BlockQuoted cs → StringText ('"' :: '"' :: '"' :: cs)

/-- A token has characters and stands in a text where they do; it is what is read there, and a string is
there as a whole. -/
structure StandsIn (t : Token) (text : List Char) : Prop where
  solid : t.start < t.stop
  spelled : text.extract t.start t.stop = t.text.toList
  read : ∃ c rest, text.drop t.start = c :: rest ∧ scan c rest = .ok (t.kind, t.text.length)
  whole : t.kind = .string → StringText t.text.toList

/-- The spans in front of some tokens, from an offset on, and the one behind them up to a place. -/
def gaps (place : Nat) : Nat → List Token → List (Nat × Nat)
  | offset, [] => [(offset, place)]
  | offset, t :: ts => (offset, t.start) :: gaps place t.stop ts

/-- The characters of a text from an offset up to a place fall into tokens, one behind the other, and gaps:
each of them lies in a gap or in a token, and not in both. -/
structure Partition (text : List Char) (offset place : Nat) (ts : List Token) : Prop where
  inside : place ≤ text.length
  stands : ∀ t ∈ ts, t.StandsIn text
  within : ∀ t ∈ ts, offset ≤ t.start ∧ t.stop ≤ place
  apart : ts.Pairwise fun t u => t.start < u.start ∧ t.stop ≤ u.start
  few : offset + ts.length ≤ place
  between : ∀ g ∈ gaps place offset ts, offset ≤ g.1 ∧ g.1 ≤ g.2 ∧ g.2 ≤ place
  ignorable : ∀ g ∈ gaps place offset ts, Ignorable (text.drop g.2) (text.extract g.1 g.2)
  either : ∀ i, offset ≤ i → i < place →
    ((∃ g ∈ gaps place offset ts, g.1 ≤ i ∧ i < g.2) ↔ ∀ t ∈ ts, ¬(t.start ≤ i ∧ i < t.stop))

def bytesTo (text : List Char) (offset : Nat) : Nat := (String.ofList (text.take offset)).utf8ByteSize

structure ApartInBytes (text : List Char) (ts : List Token) : Prop where
  solid : ∀ t ∈ ts, 0 < t.text.utf8ByteSize
  size : ∀ t ∈ ts, bytesTo text t.stop = bytesTo text t.start + t.text.utf8ByteSize
  apart : ts.Pairwise fun t u => bytesTo text t.stop ≤ bytesTo text u.start
  within : ∀ t ∈ ts, bytesTo text t.stop ≤ (String.ofList text).utf8ByteSize

end Token

/-- Reading a text ends at a place: with the text, or with an error at a character that begins no token. The
error lies there or further on in the text, or at its end. -/
inductive Ending.StopsAt (text : List Char) (place : Nat) : Ending → Prop
  | complete : place = text.length → StopsAt text place (.complete place)
  | broken {c rest problem k} : text.drop place = c :: rest → c ∉ '#' :: Token.blanks →
      Token.scan c rest = .error (problem, k) → place + k ≤ text.length →
      (SyntaxError.of text (place + k) problem.message).Marks text (place + k) →
      StopsAt text place (.broken problem (place + k))

/-! Lines and columns. -/
namespace SyntaxError

variable {text note : List Char} {offset : Nat}

theorem of_first_line (inside : offset ≤ text.length) (line : '\n' ∉ text.take offset) (message : String) :
    of text offset message = ⟨message, 1, offset + 1⟩ := by
  have whole : (text.take offset).reverse.takeWhile (· ≠ '\n') = (text.take offset).reverse := by
    refine List.takeWhile_eq_self_iff.mpr fun c member => ?_
    simpa using ne_of_mem_of_not_mem (List.mem_reverse.mp member) line
  simp only [of, whole, List.count_eq_zero.mpr line, List.length_reverse, List.length_take_of_le inside]

theorem takeWhile_newline (cs rest : List Char) :
    (cs ++ '\n' :: rest).takeWhile (· ≠ '\n') = cs.takeWhile (· ≠ '\n') := by
  induction cs with
  | nil => rfl
  | cons c cs ih => rw [List.cons_append, List.takeWhile_cons, List.takeWhile_cons, ih]

theorem of_next_line (line : '\n' ∉ note) (text : List Char) (offset : Nat) (message : String) :
    of (note ++ '\n' :: text) (note.length + (offset + 1)) message =
      { of text offset message with line := (of text offset message).line + 1 } := by
  have column := takeWhile_newline (text.take offset).reverse note.reverse
  simp only [of, List.take_length_add_append, List.take_succ_cons, List.count_append, List.count_cons_self,
    List.count_eq_zero.mpr line, List.reverse_append, List.reverse_cons, List.append_assoc,
    List.singleton_append, column, Nat.zero_add]

/-- An error names the offset at which it was found. -/
theorem marks_of (inside : offset ≤ text.length) (message : String) :
    (of text offset message).Marks text offset := by
  -- By the lines of the text: the offset lies in the first one, its end included, or behind its newline.
  induction size : text.length using Nat.strong_induction_on generalizing text offset with
  | _ size ih =>
    by_cases newline : '\n' ∈ text
    · obtain ⟨note, rest, rfl, line⟩ := List.eq_append_cons_of_mem newline
      have lines := List.splitOn_append_cons_self_of_not_mem line rest
      by_cases first : offset ≤ note.length
      · have front : '\n' ∉ (note ++ '\n' :: rest).take offset := by
          rw [List.take_append_of_le_length first]
          exact fun member => line (List.mem_of_mem_take member)
        rw [of_first_line inside front]
        exact ⟨[], _, note, offset, lines, first, rfl, rfl, (Nat.zero_add offset).symm⟩
      · obtain ⟨k, rfl⟩ := Nat.exists_eq_add_of_lt (Nat.lt_of_not_le first)
        simp only [List.length_append, List.length_cons] at inside size
        obtain ⟨before, after, last, column, split, le, lineEq, columnEq, offsetEq⟩ :=
          ih rest.length (by omega) (by omega : k ≤ rest.length) rfl
        rw [Nat.add_assoc, of_next_line line]
        refine ⟨note :: before, after, last, column, ?_, le, ?_, columnEq, ?_⟩
        · rw [lines, split, List.cons_append]
        · simp [lineEq]
        · simp only [List.flatten_cons, List.length_append, List.length_cons]
          omega
    · rw [of_first_line inside fun member => newline (List.mem_of_mem_take member)]
      exact ⟨[], [], text, offset, List.splitOn_eq_singleton newline, inside, rfl, rfl,
        (Nat.zero_add offset).symm⟩

end SyntaxError

namespace Token

variable {text cs rest : List Char} {ts : List Token} {offset place n : Nat} {kind : TokenKind}

/-! What is ignored. -/
section Gaps

theorem isIgnored_iff (c : Char) : isIgnored c = true ↔ c ∈ blanks := by simp [isIgnored, blanks]

/-- Outside of a comment and inside of one. -/
theorem ignorable_ignored (cs : List Char) :
    Ignorable (cs.drop (ignored false cs)) (cs.take (ignored false cs)) ∧
      ∃ note more, cs.take (ignored true cs) = note ++ more ∧ '\n' ∉ note ∧
        (∀ c ∈ (more ++ cs.drop (ignored true cs)).head?, c = '\n') ∧
        Ignorable (cs.drop (ignored true cs)) more := by
  induction cs with
  | nil => exact ⟨.nil, [], [], rfl, nofun, nofun, .nil⟩
  | cons c cs ih =>
    obtain ⟨outside, note, more, taken, line, ends, inside⟩ := ih
    constructor
    · by_cases blank : isIgnored c = true
      · simp only [ignored, Bool.false_eq_true, if_false, blank, if_true, Nat.add_comm 1]
        exact .blank ((isIgnored_iff c).mp blank) outside
      · by_cases mark : c = '#'
        · subst mark
          simp only [ignored, Bool.false_eq_true, if_false, blank, if_true, Nat.add_comm 1,
            List.take_succ_cons, List.drop_succ_cons, taken]
          exact .comment line ends inside
        · simp only [ignored, Bool.false_eq_true, if_false, blank, mark]
          exact .nil
    · by_cases newline : c = '\n'
      · subst newline
        simp only [ignored, if_true, Nat.add_comm 1]
        refine ⟨[], _, rfl, nofun, ?_, .blank (by decide) outside⟩
        rintro _ ⟨⟩
        rfl
      · simp only [ignored, if_true, ne_eq, newline, not_false_eq_true, decide_true, Nat.add_comm 1,
            List.take_succ_cons, List.drop_succ_cons, taken]
        exact ⟨c :: note, more, rfl, by simp [line, Ne.symm newline], ends, inside⟩

theorem not_blank_of_drop {inComment : Bool} {c : Char} (here : cs.drop (ignored inComment cs) = c :: rest) :
    c ∉ '#' :: blanks := by
  fun_induction ignored inComment cs with
  | case1 => cases here
  | case2 d cs ih => exact ih (by rwa [Nat.add_comm, List.drop_succ_cons] at here)
  | case3 inComment d cs outside blank ih => exact ih (by rwa [Nat.add_comm, List.drop_succ_cons] at here)
  | case4 inComment cs outside blank ih => exact ih (by rwa [Nat.add_comm, List.drop_succ_cons] at here)
  | case5 inComment d cs outside blank mark =>
    cases here
    simp [← isIgnored_iff, blank, mark]

theorem ignored_le (inComment : Bool) (cs : List Char) : ignored inComment cs ≤ cs.length := by
  fun_induction ignored inComment cs with
  | case1 => exact Nat.le_refl 0
  | case2 d cs ih => simpa [Nat.add_comm 1] using ih
  | case3 inComment d cs outside blank ih => simpa [Nat.add_comm 1] using ih
  | case4 inComment cs outside blank ih => simpa [Nat.add_comm 1] using ih
  | case5 => exact Nat.zero_le _

theorem ignorable_behind (text : List Char) (offset : Nat) :
    Ignorable (text.drop (offset + ignored false (text.drop offset)))
      (text.extract offset (offset + ignored false (text.drop offset))) := by
  have gap := (ignorable_ignored (text.drop offset)).1
  rwa [List.extract_eq_take_drop, Nat.add_sub_cancel_left, ← List.drop_drop]

end Gaps

/-! What is read at a place lies among the characters there. -/
section Scans

/-- A token takes some of these characters, which are a whole string if it is one; a problem lies among them
or at their end. -/
def Scan.Fits (cs : List Char) : Scan → Prop
  | .ok (kind, n) => 0 < n ∧ n ≤ cs.length ∧ (kind = .string → StringText (cs.take n))
  | .error (_, k) => k ≤ cs.length

theorem digits_le (cs : List Char) : digits cs ≤ cs.length := (List.takeWhile_prefix _).length_le

theorem sign_le {p : Prop} [Decidable p] (there : p → cs ≠ []) : (if p then 1 else 0) ≤ cs.length := by
  split
  next sign => exact List.length_pos_iff.mpr (there sign)
  next => exact Nat.zero_le _

theorem exponent_fits (plain : kind ≠ .string) (positive : 0 < n) (whole : n + rest.length = cs.length) :
    Scan.Fits cs (exponent kind n rest) := by
  cases rest with
  | nil => exact ⟨positive, Nat.le_of_eq whole, fun same => absurd same plain⟩
  | cons e rest =>
    rw [List.length_cons] at whole
    have there : rest.head? = some '+' ∨ rest.head? = some '-' → rest ≠ [] := by
      rintro (sign | sign) rfl <;> cases sign
    have sign := sign_le there
    simp only [exponent]
    generalize (if rest.head? = some '+' ∨ rest.head? = some '-' then 1 else 0) = s at sign ⊢
    have count := digits_le (rest.drop s)
    rw [List.length_drop] at count
    split
    · split
      · show n + 1 + s ≤ cs.length
        omega
      · exact ⟨by omega, by omega, nofun⟩
    · exact ⟨positive, by omega, fun same => absurd same plain⟩

theorem number_fits (cs : List Char) : Scan.Fits cs (number cs) := by
  have there : cs.head? = some '-' → cs ≠ [] := by
    rintro sign rfl
    cases sign
  have sign := sign_le there
  simp only [number]
  generalize (if cs.head? = some '-' then 1 else 0) = s at sign ⊢
  have count := digits_le (cs.drop s)
  rw [List.length_drop] at count
  generalize digits (cs.drop s) = whole at count ⊢
  split
  · exact Nat.zero_le _
  · have left := List.length_drop (i := s + whole) (l := cs)
    split
    next rest behind =>
      rw [behind, List.length_cons] at left
      have fraction := digits_le rest
      split
      · show s + whole + 1 ≤ cs.length
        omega
      · exact exponent_fits nofun (by omega) (by rw [List.length_drop]; omega)
    next => exact exponent_fits nofun (by omega) (by omega)

theorem quoted_of_stringLength {cs : List Char} {n : Nat} (read : stringLength? cs = some n) :
    n ≤ cs.length ∧ Quoted (cs.take n) := by
  fun_induction stringLength? cs generalizing n with
  | case1 => cases read
  | case2 rest =>
    cases read
    exact ⟨by simp, .close⟩
  | case3 c rest ih =>
    obtain ⟨m, inner, rfl⟩ := Option.map_eq_some_iff.mp read
    obtain ⟨le, quoted⟩ := ih inner
    exact ⟨Nat.add_le_add_right le 2, .escaped c quoted⟩
  | case4 => cases read
  | case5 c rest quote escape line ih =>
    obtain ⟨m, inner, rfl⟩ := Option.map_eq_some_iff.mp read
    obtain ⟨le, quoted⟩ := ih inner
    have slash : c ≠ '\\' := by
      rintro rfl
      cases rest with
      | nil => cases inner
      | cons d rest => exact escape d rest rfl rfl
    have plain : c ∉ ['"', '\\', '\n', '\r'] := by simpa [slash] using ⟨quote, not_or.mp line⟩
    exact ⟨Nat.add_le_add_right le 1, .plain plain quoted⟩

theorem quoted_of_blockLength {cs : List Char} {n : Nat} (read : blockLength? cs = some n) :
    n ≤ cs.length ∧ BlockQuoted (cs.take n) := by
  fun_induction blockLength? cs generalizing n with
  | case1 => cases read
  | case2 rest ih =>
    obtain ⟨m, inner, rfl⟩ := Option.map_eq_some_iff.mp read
    obtain ⟨le, quoted⟩ := ih inner
    exact ⟨Nat.add_le_add_right le 4, .escaped quoted⟩
  | case3 rest =>
    cases read
    exact ⟨by simp, .close⟩
  | case4 c rest escaped closing ih =>
    obtain ⟨m, inner, rfl⟩ := Option.map_eq_some_iff.mp read
    obtain ⟨le, quoted⟩ := ih inner
    have front : c :: rest.take m <+: c :: rest := (List.prefix_cons_inj c).mpr (List.take_prefix m rest)
    refine ⟨Nat.add_le_add_right le 1, .plain (fun begins => ?_) (fun begins => ?_) quoted⟩
    · obtain ⟨more, same⟩ := begins.trans front
      cases same
      exact escaped more rfl rfl
    · obtain ⟨more, same⟩ := begins.trans front
      cases same
      exact closing more rfl rfl

theorem string_fits (cs : List Char) : Scan.Fits ('"' :: cs) (string ('"' :: cs)) := by
  unfold string
  split
  next rest same =>
    cases same
    split
    next n read =>
      obtain ⟨le, quoted⟩ := quoted_of_blockLength read
      exact ⟨by omega, Nat.add_le_add_right le 3, fun _ => .block quoted⟩
    next => exact Nat.zero_le _
  next =>
    split
    next n read =>
      obtain ⟨le, quoted⟩ := quoted_of_stringLength read
      exact ⟨by omega, Nat.add_le_add_right le 1, fun _ => .line quoted⟩
    next => exact Nat.zero_le _

theorem scan_fits (c : Char) (rest : List Char) : Scan.Fits (c :: rest) (scan c rest) := by
  unfold scan
  split
  · exact ⟨Nat.one_pos, by simp, nofun⟩
  split
  · split
    next dots =>
      have two := (List.isPrefixOf_iff_prefix.mp dots).length_le
      exact ⟨by omega, Nat.add_le_add_right two 1, nofun⟩
    next => exact Nat.zero_le _
  split
  · have others := (List.takeWhile_prefix isNameRest (l := rest)).length_le
    exact ⟨by omega, by rw [List.length_cons]; omega, nofun⟩
  split
  · exact number_fits (c :: rest)
  split
  next quote =>
    subst quote
    exact string_fits rest
  · exact Nat.zero_le _

theorem le_of_scan {c : Char} (read : scan c rest = .ok (kind, n)) :
    0 < n ∧ n ≤ rest.length + 1 ∧ (kind = .string → StringText ((c :: rest).take n)) := by
  have fits := scan_fits c rest
  rwa [read] at fits

theorem le_of_refused {c : Char} {problem : LexProblem} (refused : scan c rest = .error (problem, n)) :
    n ≤ rest.length + 1 := by
  have fits := scan_fits c rest
  rwa [refused] at fits

end Scans

/-! One more token in front of others, and the whole run. -/
section Runs

variable {t : Token}

theorem Partition.nil (le : offset ≤ place) (inside : place ≤ text.length)
    (gap : Ignorable (text.drop place) (text.extract offset place)) : Partition text offset place [] where
  inside := inside
  stands := nofun
  within := nofun
  apart := .nil
  few := le
  between := by simp [gaps, le]
  ignorable := by simpa [gaps] using gap
  either := by simp +contextual [gaps]

theorem Partition.either_cons (others : Partition text t.stop place ts) (solid : t.start < t.stop) {i : Nat}
    (low : offset ≤ i) (high : i < place) :
    (∃ g ∈ gaps place offset (t :: ts), g.1 ≤ i ∧ i < g.2) ↔
      ∀ u ∈ t :: ts, ¬(u.start ≤ i ∧ i < u.stop) := by
  simp only [gaps, List.mem_cons, or_and_right, exists_or, exists_eq_left, forall_eq_or_imp]
  by_cases front : i < t.start
  · -- In front of the token there is only the first gap.
    have later : ∀ u ∈ ts, ¬(u.start ≤ i ∧ i < u.stop) := by
      intro u member
      have := others.within u member
      omega
    exact iff_of_true (.inl ⟨low, front⟩) ⟨by omega, later⟩
  · by_cases inside : i < t.stop
    · refine iff_of_false ?_ fun outside => outside.1 ⟨by omega, inside⟩
      rintro (here | ⟨g, member, here⟩)
      · omega
      · have := others.between g member
        omega
    · rw [others.either i (by omega) high]
      have first : ¬(offset ≤ i ∧ i < t.start) := by omega
      have token : ¬(t.start ≤ i ∧ i < t.stop) := by omega
      simp only [first, token, false_or, not_false_eq_true, true_and]

theorem Partition.cons (le : offset ≤ t.start)
    (gap : Ignorable (text.drop t.start) (text.extract offset t.start)) (stands : t.StandsIn text)
    (others : Partition text t.stop place ts) : Partition text offset place (t :: ts) := by
  have solid := stands.solid
  have few := others.few
  refine ⟨others.inside, ?_, ?_, ?_, ?_, ?_, ?_, fun i low high => others.either_cons solid low high⟩
  · exact List.forall_mem_cons.mpr ⟨stands, others.stands⟩
  · refine List.forall_mem_cons.mpr ⟨⟨le, by omega⟩, fun u member => ?_⟩
    have := others.within u member
    omega
  · refine .cons (fun u member => ?_) others.apart
    have := others.within u member
    omega
  · rw [List.length_cons]
    omega
  · refine List.forall_mem_cons.mpr ⟨⟨Nat.le_refl _, le, by omega⟩, fun g member => ?_⟩
    have := others.between g member
    omega
  · exact List.forall_mem_cons.mpr ⟨gap, others.ignorable⟩

/-- The token that is read at a place stands there. -/
theorem standsIn_of_scan {start : Nat} {c : Char} (here : text.drop start = c :: rest)
    (read : scan c rest = .ok (kind, n)) :
    StandsIn ⟨kind, start, String.ofList ((c :: rest).take n)⟩ text ∧
      stop ⟨kind, start, String.ofList ((c :: rest).take n)⟩ = start + n := by
  obtain ⟨positive, bound, whole⟩ := le_of_scan read
  have size : (String.ofList ((c :: rest).take n)).length = n := by
    rw [String.length_ofList, List.length_take_of_le bound]
  have stop : start + (String.ofList ((c :: rest).take n)).length = start + n := by rw [size]
  refine ⟨⟨?_, ?_, ⟨c, rest, here, ?_⟩, ?_⟩, stop⟩
  · rw [Token.stop, stop]
    exact Nat.lt_add_of_pos_right positive
  · rw [Token.stop, stop, List.extract_eq_take_drop, here, Nat.add_sub_cancel_left, String.toList_ofList]
  · rw [read, size]
  · rw [String.toList_ofList]
    exact whole

/-- One token at a time: in front of it there is a gap, and the rest behind it is taken apart in the same
way. -/
theorem partition_all (fuel : Nat) (inside : offset ≤ text.length) (enough : text.length < offset + fuel) :
    ∃ place, Partition text offset place (all fuel offset (text.drop offset)).1 ∧
      (all fuel offset (text.drop offset)).2.StopsAt text place := by
  induction fuel generalizing offset with
  | zero => omega
  | succ fuel ih =>
    have gap := ignorable_behind text offset
    have bound := ignored_le false (text.drop offset)
    rw [List.length_drop] at bound
    simp only [all]
    split
    next ended =>
      have short := List.drop_eq_nil_iff.mp ended
      rw [List.length_drop] at short
      exact ⟨_, .nil (Nat.le_add_right _ _) (by omega) gap, .complete (by omega)⟩
    next c rest here =>
      have solid := not_blank_of_drop here
      rw [List.drop_drop] at here
      have left := congrArg List.length here
      rw [List.length_drop, List.length_cons] at left
      split
      next problem k refused =>
        have low := le_of_refused refused
        have within : offset + ignored false (text.drop offset) + k ≤ text.length := by omega
        exact ⟨_, .nil (Nat.le_add_right _ _) (by omega) gap,
          .broken here solid refused within (SyntaxError.marks_of within _)⟩
      next kind n read =>
        obtain ⟨positive, low, -⟩ := le_of_scan read
        obtain ⟨stands, stop⟩ := standsIn_of_scan here read
        have within : offset + ignored false (text.drop offset) + n ≤ text.length := by omega
        obtain ⟨place, others, ending⟩ := ih within (by omega)
        rw [← here, List.drop_drop]
        exact ⟨place, .cons (Nat.le_add_right _ _) gap (here ▸ stands) (by rwa [here, stop]), ending⟩

theorem all_add (more : Nat) {fuel : Nat} {cs : List Char} (enough : cs.length < fuel) (offset : Nat) :
    all (fuel + more) offset cs = all fuel offset cs := by
  induction fuel generalizing offset cs with
  | zero => omega
  | succ fuel ih =>
    rw [Nat.add_right_comm]
    simp only [all]
    split
    next => rfl
    next c rest here =>
      have left := congrArg List.length here
      rw [List.length_drop, List.length_cons] at left
      split
      next => rfl
      next kind n read =>
        have positive := (le_of_scan read).1
        rw [ih (by rw [List.length_drop, List.length_cons]; omega)]

end Runs

/-! Bytes. -/
section Bytes

variable {m n : Nat}

theorem bytesTo_add (text : List Char) (m n : Nat) :
    bytesTo text (m + n) = bytesTo text m + (String.ofList (text.extract m (m + n))).utf8ByteSize := by
  rw [bytesTo, bytesTo, List.take_add, String.ofList_append, String.utf8ByteSize_append,
    List.extract_eq_take_drop, Nat.add_sub_cancel_left]

theorem bytesTo_mono (text : List Char) (le : m ≤ n) : bytesTo text m ≤ bytesTo text n := by
  obtain ⟨k, rfl⟩ := Nat.exists_eq_add_of_le le
  rw [bytesTo_add]
  exact Nat.le_add_right _ _

theorem StandsIn.bytes {t : Token} (stands : t.StandsIn text) :
    0 < t.text.utf8ByteSize ∧ bytesTo text t.stop = bytesTo text t.start + t.text.utf8ByteSize := by
  have solid := stands.solid
  constructor
  · refine Nat.pos_of_ne_zero fun none => ?_
    rw [stop, String.utf8ByteSize_eq_zero_iff.mp none] at solid
    exact absurd solid (Nat.lt_irrefl _)
  · have spelled := stands.spelled
    rw [stop] at spelled ⊢
    rw [bytesTo_add, spelled, String.ofList_toList]

theorem Partition.apartInBytes (parts : Partition text offset place ts) : ApartInBytes text ts where
  solid t member := (parts.stands t member).bytes.1
  size t member := (parts.stands t member).bytes.2
  apart := parts.apart.imp fun behind => bytesTo_mono text behind.2
  within t member := by
    have le := Nat.le_trans (parts.within t member).2 parts.inside
    have whole : bytesTo text text.length = (String.ofList text).utf8ByteSize := by
      rw [bytesTo, List.take_length]
    exact whole ▸ bytesTo_mono text le

end Bytes

/-- A text falls into its tokens and into gaps of blanks and comments, up to the place where reading ends. It
ends after no more tokens than the text has characters, so that further attempts would not change anything. -/
theorem ofText_takes_apart (text : List Char) :
    (∀ more, all (text.length + 1 + more) 0 text = ofText text) ∧
      ∃ place, Partition text 0 place (ofText text).1 ∧ (ofText text).2.StopsAt text place ∧
        ApartInBytes text (ofText text).1 := by
  refine ⟨fun more => all_add more (Nat.lt_succ_self _) 0, ?_⟩
  obtain ⟨place, parts, ending⟩ :=
    partition_all (text.length + 1) (Nat.zero_le text.length) (by omega)
  exact ⟨place, parts, ending, parts.apartInBytes⟩

/-- A string keeps what would begin a comment, and a comment keeps what would begin a string. -/
example : ofText "\"#\" # \"a".toList = ([⟨.string, 0, "\"#\""⟩], .complete 8) := by decide

end Token
end ApiAtlas.Graph
