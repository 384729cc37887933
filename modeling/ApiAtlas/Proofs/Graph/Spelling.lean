import ApiAtlas.Proofs.Graph.Grammar
import Mathlib.Data.List.Forall2

/-! From characters to tokens. A text is put together from pieces; what a piece gives does not depend on the
offset at which it stands, and on what is behind it only if a name or a number could go on there. -/
namespace ApiAtlas.Graph.Token

open Grammar

/-- What may stand between two tokens: ignored characters, and comments with the end of their line. -/
inductive Gap : List Char → Prop
  | nil : Gap []
  | blank {c cs} : isIgnored c = true → Gap cs → Gap (c :: cs)
  | comment {note cs} : '\n' ∉ note → Gap cs → Gap ('#' :: (note ++ '\n' :: cs))

def Ends (rest : List Char) : Prop := ∀ c ∈ rest.head?, isNameRest c = false ∧ c ≠ '.'

/-- In front of other characters some characters are read as some tokens, one for each character at most. -/
structure Puts (offset : Nat) (cs rest : List Char) (ts : List Token) : Prop where
  length_le : ts.length ≤ cs.length
  all_eq : ∀ fuel, all (fuel + 1 + ts.length) offset (cs ++ rest) =
    (ts ++ (all (fuel + 1) (offset + cs.length) rest).1, (all (fuel + 1) (offset + cs.length) rest).2)

/-- In front of other characters some characters spell tokens of a form, wherever they stand. -/
def Spells (cs rest : List Char) (G : List Token → Prop) : Prop :=
  ∀ offset, ∃ ts, Puts offset cs rest ts ∧ G ts

variable {cs cs' rest : List Char} {G H : List Token → Prop} {c : Char} {kind : TokenKind}

theorem ignored_note {note : List Char} (line : '\n' ∉ note) (cs : List Char) :
    ignored true (note ++ '\n' :: cs) = note.length + 1 + ignored false cs := by
  induction note with
  | nil => simp [ignored]
  | cons c note ih =>
    obtain ⟨other, line⟩ : ¬ '\n' = c ∧ '\n' ∉ note := by simpa using line
    have inside : (c ≠ '\n') = true := by simpa using fun same => other same.symm
    simp only [List.cons_append, ignored, if_true, inside, decide_true, ih line, List.length_cons]
    omega

theorem ignored_gap (gap : Gap cs) (rest : List Char) :
    ignored false (cs ++ rest) = cs.length + ignored false rest := by
  induction gap with
  | nil => simp
  | blank blank _ ih =>
    simp only [List.cons_append, ignored, Bool.false_eq_true, if_false, blank, if_true, ih,
      List.length_cons]
    omega
  | comment line _ ih =>
    have mark : isIgnored '#' = false := by decide
    simp only [List.cons_append, List.append_assoc, ignored, Bool.false_eq_true, if_false, mark, if_true,
      ignored_note line, ih, List.length_cons, List.length_append]
    omega

theorem all_gap (gap : Gap cs) (fuel offset : Nat) (rest : List Char) :
    all (fuel + 1) offset (cs ++ rest) = all (fuel + 1) (offset + cs.length) rest := by
  have start : offset + (cs.length + ignored false rest) = offset + cs.length + ignored false rest := by
    omega
  simp only [all, ignored_gap gap, List.drop_length_add_append, start]

theorem all_token (solid : isIgnored c = false) (code : c ≠ '#')
    (scanned : scan c (cs ++ rest) = .ok (kind, cs.length + 1)) (fuel offset : Nat) :
    all (fuel + 1) offset (c :: cs ++ rest) =
      (⟨kind, offset, String.ofList (c :: cs)⟩ :: (all fuel (offset + (cs.length + 1)) rest).1,
        (all fuel (offset + (cs.length + 1)) rest).2) := by
  have skipped : ignored false (c :: (cs ++ rest)) = 0 := by simp [ignored, solid, code]
  have taken : (cs ++ rest).take cs.length = cs := List.take_left
  have left : (cs ++ rest).drop cs.length = rest := List.drop_left
  simp only [all, List.cons_append, skipped, List.drop_zero, Nat.add_zero, scanned,
    List.take_succ_cons, List.drop_succ_cons, taken, left]

namespace Spells

theorem mono (spelled : Spells cs rest G) (enough : ∀ ts, G ts → H ts) : Spells cs rest H := by
  intro offset
  obtain ⟨ts, puts, form⟩ := spelled offset
  exact ⟨ts, puts, enough ts form⟩

theorem append (first : Spells cs (cs' ++ rest) G) (second : Spells cs' rest H) :
    Spells (cs ++ cs') rest fun ts => ∃ us vs, ts = us ++ vs ∧ G us ∧ H vs := by
  intro offset
  obtain ⟨us, before, front⟩ := first offset
  obtain ⟨vs, behind, back⟩ := second (offset + cs.length)
  refine ⟨us ++ vs, ⟨?_, fun fuel => ?_⟩, us, vs, rfl, front, back⟩
  · have lower := before.length_le
    have upper := behind.length_le
    simp only [List.length_append]
    omega
  · have fuels : fuel + 1 + (us ++ vs).length = fuel + vs.length + 1 + us.length := by
      simp only [List.length_append]
      omega
    have rests : fuel + vs.length + 1 = fuel + 1 + vs.length := by omega
    have offsets : offset + (cs ++ cs').length = offset + cs.length + cs'.length := by
      simp only [List.length_append]
      omega
    rw [fuels, List.append_assoc, before.all_eq, rests, behind.all_eq, offsets, List.append_assoc]

theorem behind (gap : Gap cs) (spelled : Spells cs' rest G) : Spells (cs ++ cs') rest G := by
  intro offset
  obtain ⟨ts, puts, form⟩ := spelled (offset + cs.length)
  refine ⟨ts, ⟨?_, fun fuel => ?_⟩, form⟩
  · have bound := puts.length_le
    simp only [List.length_append]
    omega
  · have fuels : fuel + 1 + ts.length = fuel + ts.length + 1 := by omega
    have offsets : offset + (cs ++ cs').length = offset + cs.length + cs'.length := by
      simp only [List.length_append]
      omega
    rw [fuels, List.append_assoc, all_gap gap, ← fuels, puts.all_eq, offsets]

theorem blank (ignored : isIgnored c = true) (spelled : Spells cs rest G) : Spells (c :: cs) rest G :=
  behind (.blank ignored .nil) spelled

theorem one (solid : isIgnored c = false) (code : c ≠ '#')
    (scanned : scan c (cs ++ rest) = .ok (kind, cs.length + 1)) :
    Spells (c :: cs) rest fun ts =>
      ∃ t : TokenOf kind, ts = [t.1] ∧ t.1.text = String.ofList (c :: cs) := by
  intro offset
  refine ⟨[⟨kind, offset, String.ofList (c :: cs)⟩], ⟨?_, fun fuel => ?_⟩, ⟨_, rfl⟩, rfl, rfl⟩
  · simp
  · exact all_token solid code scanned (fuel + 1) offset

theorem nothing (form : G []) : Spells [] rest G :=
  fun _ => ⟨[], ⟨Nat.le_refl _, fun _ => rfl⟩, form⟩

theorem blanks (ignored : ∀ c ∈ cs, isIgnored c = true) (spelled : Spells cs' rest G) :
    Spells (cs ++ cs') rest G := by
  induction cs with
  | nil => exact spelled
  | cons c cs ih =>
    obtain ⟨here, others⟩ := List.forall_mem_cons.mp ignored
    exact blank here (ih others)

end Spells

/-! Marks, names and numbers. -/
section Pieces

theorem apart_of_punct (mark : isPunct c = true) :
    isIgnored c = false ∧ c ≠ '#' ∧ isNameStart c = false := by
  have each : ("!$&():=@[]\x7b|\x7d".toList.all fun c => !isIgnored c && c != '#' && !isNameStart c) = true := by
    decide
  have known := List.all_eq_true.mp each c (by simpa [isPunct] using mark)
  simpa [and_assoc] using known

theorem Spells.punct (mark : isPunct c = true) (spelled : Spells cs rest G) :
    Spells (c :: cs) rest fun ts => ∃ (o : Punct c) (us : List Token), ts = o.1 :: us ∧ G us := by
  obtain ⟨solid, code, -⟩ := apart_of_punct mark
  have alone : Spells [c] (cs ++ rest) fun ts =>
      ∃ t : Punct c, ts = [t.1] ∧ t.1.text = String.ofList [c] :=
    .one solid code (by simp [scan, mark])
  refine (alone.append spelled).mono ?_
  rintro _ ⟨_, us, rfl, ⟨o, rfl, -⟩, form⟩
  exact ⟨o, us, rfl, form⟩

theorem blank_cases (blank : isIgnored c = true) :
    c = ' ' ∨ c = '\t' ∨ c = '\n' ∨ c = '\r' ∨ c = ',' ∨ c = '\ufeff' := by
  simpa [isIgnored] using blank

theorem apart_of_nameStart (start : isNameStart c = true) :
    isPunct c = false ∧ c ≠ '.' ∧ isIgnored c = false ∧ c ≠ '#' := by
  refine ⟨?_, ?_, ?_, ?_⟩
  · cases mark : isPunct c with
    | false => rfl
    | true =>
      rw [(apart_of_punct mark).2.2] at start
      contradiction
  · rintro rfl
    contradiction
  · cases blank : isIgnored c with
    | false => rfl
    | true => rcases blank_cases blank with rfl | rfl | rfl | rfl | rfl | rfl <;> contradiction
  · rintro rfl
    contradiction

theorem Ends.takeWhile_eq (ends : Ends rest) : rest.takeWhile isNameRest = [] := by
  cases rest with
  | nil => rfl
  | cons c rest => simp [(ends c rfl).1]

theorem ends_cons (apart : isNameRest c = false ∧ c ≠ '.') : Ends (c :: rest) := by
  rintro _ ⟨⟩
  exact apart

theorem ends_of_blank (blank : isIgnored c = true) : Ends (c :: rest) := by
  rcases blank_cases blank with rfl | rfl | rfl | rfl | rfl | rfl <;> exact ends_cons (by decide)

theorem Gap.ends (gap : Gap cs) (ends : Ends rest) : Ends (cs ++ rest) := by
  cases gap with
  | nil => exact ends
  | blank ignored => exact ends_of_blank ignored
  | comment => exact ends_cons (by decide)

theorem Ends.append (front : Ends cs) (back : Ends rest) : Ends (cs ++ rest) := by
  cases cs with
  | nil => exact back
  | cons c cs => exact front

theorem Spells.name (start : isNameStart c = true) (others : ∀ d ∈ cs, isNameRest d = true)
    (ends : Ends rest) : Spells (c :: cs) rest fun ts =>
      ∃ n : Name, ts = [n.1] ∧ n.1.text = String.ofList (c :: cs) := by
  obtain ⟨mark, dot, solid, code⟩ := apart_of_nameStart start
  refine .one solid code ?_
  have taken : (cs ++ rest).takeWhile isNameRest = cs := by
    rw [List.takeWhile_append_of_pos others, ends.takeWhile_eq, List.append_nil]
  simp [scan, mark, dot, start, taken, Nat.add_comm]

theorem Ends.digits_eq (ends : Ends rest) : digits rest = 0 := by
  cases rest with
  | nil => rfl
  | cons c rest =>
    have other := (ends c rfl).1
    simp only [isNameRest, Char.isAlphanum, Bool.or_eq_false_iff] at other
    simp [digits, other.1.2]

theorem Ends.exponent_eq (ends : Ends rest) (n : Nat) : exponent kind n rest = .ok (kind, n) := by
  cases rest with
  | nil => rfl
  | cons c rest =>
    have other : ¬ (c = 'e' ∨ c = 'E') := by
      rintro (rfl | rfl)
      · exact absurd (ends 'e' rfl).1 (by decide)
      · exact absurd (ends 'E' rfl).1 (by decide)
    simp only [exponent, if_neg other]

theorem digits_append {ds : List Char} (each : ∀ d ∈ ds, d.isDigit = true) (stop : digits rest = 0) :
    digits (ds ++ rest) = ds.length := by
  have none : rest.takeWhile Char.isDigit = [] := List.length_eq_zero_iff.mp stop
  rw [digits, List.takeWhile_append_of_pos each, none, List.append_nil]

theorem apart_of_digit (digit : c.isDigit = true) :
    isPunct c = false ∧ c ≠ '.' ∧ isNameStart c = false ∧ isIgnored c = false ∧ c ≠ '#' ∧ c ≠ '-' := by
  have each : ∀ n < 0x3A, 0x30 ≤ n → isPunct (Char.ofNat n) = false ∧ Char.ofNat n ≠ '.' ∧
      isNameStart (Char.ofNat n) = false ∧ isIgnored (Char.ofNat n) = false ∧ Char.ofNat n ≠ '#' ∧
      Char.ofNat n ≠ '-' := by decide
  simp only [Char.isDigit, Bool.and_eq_true, decide_eq_true_eq, ge_iff_le, UInt32.le_iff_toNat_le] at digit
  have known := each c.toNat (Nat.lt_succ_of_le digit.2) digit.1
  rwa [Char.ofNat_toNat] at known

theorem scan_digit (digit : c.isDigit = true) (cs : List Char) : scan c cs = number (c :: cs) := by
  obtain ⟨mark, dot, start, -⟩ := apart_of_digit digit
  simp [scan, mark, dot, start, digit]

theorem scan_whole {ds : List Char} (each : ∀ d ∈ c :: ds, d.isDigit = true) (ends : Ends rest) :
    scan c (ds ++ rest) = .ok (.int, ds.length + 1) := by
  obtain ⟨-, -, -, -, -, sign⟩ := apart_of_digit (each c List.mem_cons_self)
  have whole : digits (c :: (ds ++ rest)) = ds.length + 1 := digits_append each ends.digits_eq
  have behind : (c :: (ds ++ rest)).drop (ds.length + 1) = rest := by simp
  rw [scan_digit (each c List.mem_cons_self), number]
  simp only [List.head?_cons, Option.some.injEq, sign, if_false, List.drop_zero, whole, Nat.zero_add,
    behind, Nat.add_one_ne_zero]
  split
  next => exact absurd rfl (ends '.' rfl).2
  next => exact ends.exponent_eq _

theorem scan_decimal (ds : List Char) {f : Char} {fs : List Char}
    (each : ∀ d ∈ c :: ds, d.isDigit = true) (fraction : ∀ d ∈ f :: fs, d.isDigit = true)
    (ends : Ends rest) :
    scan c (ds ++ '.' :: f :: fs ++ rest) = .ok (.float, (ds ++ '.' :: f :: fs).length + 1) := by
  obtain ⟨-, -, -, -, -, sign⟩ := apart_of_digit (each c List.mem_cons_self)
  have whole : digits (c :: (ds ++ '.' :: f :: (fs ++ rest))) = ds.length + 1 := digits_append each rfl
  have behind : (c :: (ds ++ '.' :: f :: (fs ++ rest))).drop (ds.length + 1) = '.' :: f :: (fs ++ rest) := by
    simp
  have count : digits (f :: (fs ++ rest)) = fs.length + 1 := digits_append fraction ends.digits_eq
  have last : (f :: (fs ++ rest)).drop (fs.length + 1) = rest := by simp
  rw [List.append_assoc, List.cons_append, List.cons_append, scan_digit (each c List.mem_cons_self), number]
  simp only [List.head?_cons, Option.some.injEq, sign, if_false, List.drop_zero, whole, Nat.zero_add,
    behind, count, last, Nat.add_one_ne_zero, ends.exponent_eq, List.length_append, List.length_cons]
  congr 2
  omega

theorem stringLength?_append {cs : List Char}
    (plain : ∀ c ∈ cs, c ≠ '"' ∧ c ≠ '\\' ∧ c ≠ '\n' ∧ c ≠ '\r') (rest : List Char) :
    stringLength? (cs ++ '"' :: rest) = some (cs.length + 1) := by
  induction cs with
  | nil => rfl
  | cons c cs ih =>
    obtain ⟨⟨quote, escape, line, carriage⟩, others⟩ := List.forall_mem_cons.mp plain
    rw [List.cons_append, stringLength?.eq_4 _ _ quote (fun _ _ same _ => escape same), ih others]
    simp [line, carriage]

/-- A text without anything that is written in another way in quotes. -/
theorem scan_quoted {d : Char} {cs : List Char}
    (plain : ∀ c ∈ d :: cs, c ≠ '"' ∧ c ≠ '\\' ∧ c ≠ '\n' ∧ c ≠ '\r') (rest : List Char) :
    scan '"' (d :: cs ++ ['"'] ++ rest) = .ok (.string, (d :: cs ++ ['"']).length + 1) := by
  have first := (plain d List.mem_cons_self).1
  have length := stringLength?_append plain rest
  have whole : scan '"' (d :: cs ++ '"' :: rest) = string ('"' :: (d :: cs ++ '"' :: rest)) := rfl
  rw [List.append_assoc, List.singleton_append, whole, string, List.drop_succ_cons, List.drop_zero, length]
  · simp
  · intro more same
    exact first (List.cons.inj (List.cons.inj same).2).1

end Pieces

/-- Pieces with ignored characters between them spell their tokens one after the other. -/
theorem Spells.joined {α : Type} {write : α → List Char} {form : α → List Token → Prop} {l : List α}
    {sep : Char} {more : List Char} (ignored : ∀ c ∈ sep :: more, isIgnored c = true)
    (each : ∀ a ∈ l, ∀ rest, Ends rest → Spells (write a) rest (form a)) (ends : Ends rest) :
    Spells ((sep :: more).intercalate (l.map write)) rest fun ts =>
      ∃ tss : List (List Token), ts = tss.flatten ∧ List.Forall₂ form l tss := by
  induction l with
  | nil => exact .nothing ⟨[], rfl, .nil⟩
  | cons a l ih =>
    obtain ⟨first, others⟩ := List.forall_mem_cons.mp each
    cases l with
    | nil =>
      rw [List.map_singleton, List.intercalate_singleton]
      refine (first rest ends).mono fun ts here => ⟨[ts], by simp, .cons here .nil⟩
    | cons b l =>
      rw [List.map_cons, List.map_cons, List.intercalate_cons_cons, List.append_assoc]
      have head := first ((sep :: more) ++ ((sep :: more).intercalate ((b :: l).map write)) ++ rest)
        (ends_of_blank (ignored sep List.mem_cons_self))
      refine (head.append (.blanks ignored (ih others))).mono ?_
      rintro _ ⟨ts, _, rfl, here, tss, rfl, forms⟩
      exact ⟨ts :: tss, rfl, .cons here forms⟩

/-- A text that spells tokens to its end has those tokens. -/
theorem Spells.ofText (spelled : Spells cs [] G) :
    ∃ ts offset, Token.ofText cs = (ts, .complete offset) ∧ G ts := by
  obtain ⟨ts, puts, form⟩ := spelled 0
  refine ⟨ts, 0 + cs.length, ?_, form⟩
  have fuel : cs.length + 1 = cs.length - ts.length + 1 + ts.length := by
    have bound := puts.length_le
    omega
  have whole := puts.all_eq (cs.length - ts.length)
  rw [List.append_nil, ← fuel] at whole
  rw [Token.ofText, whole]
  simp [all, ignored]

end ApiAtlas.Graph.Token
