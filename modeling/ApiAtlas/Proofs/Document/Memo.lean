import ApiAtlas.Proofs.Document.Expansion
import ApiAtlas.Table

/-! Resolution with a memo. A memo is sound if it holds plain expansions only, of references that no
cycle is behind: such an expansion is the same wherever the reference stands. No cut during an expansion
means that no cycle is behind what it expands, so that what is kept is sound again. -/
namespace ApiAtlas.SchemaRef

variable {schemas : Table SchemaRef}

/-- What a memo holds are expansions of references without cycles behind them. -/
structure Memo.Sound (schemas : Table SchemaRef) (memo : Memo) : Prop where
  expanded : ∀ p found, memo.done.get? p = some found → found = expand schemas [] (.ref p)
  acyclic : ∀ p found, memo.done.get? p = some found → Acyclic schemas p

theorem Memo.sound_empty : Memo.Sound schemas {} :=
  ⟨fun _ _ found => (nomatch found), fun _ _ found => (nomatch found)⟩

theorem Memo.Sound.put {memo : Memo} {p : String} {result : SchemaRef} (sound : memo.Sound schemas)
    (expanded : result = expand schemas [] (.ref p)) (acyclic : Acyclic schemas p) :
    Memo.Sound schemas { memo with done := memo.done.put p result } := by
  constructor
  · intro q found kept
    by_cases same : q = p
    · subst same
      simp_all [Table.get?_put_self]
    · rw [Table.get?_put_of_ne same] at kept
      exact sound.expanded q found kept
  · intro q found kept
    by_cases same : q = p
    · exact same ▸ acyclic
    · rw [Table.get?_put_of_ne same] at kept
      exact sound.acyclic q found kept

/-- What a step has made of a memo: a value, a memo that is sound again, and more cuts unless something is
known to be without cycles. -/
structure Outcome (schemas : Table SchemaRef) {α : Type} (memo : Memo) (out : α × Memo) (value : α)
    (clean : Prop) : Prop where
  value_eq : out.1 = value
  sound : out.2.Sound schemas
  cuts_le : memo.cuts ≤ out.2.cuts
  clean_of_uncut : out.2.cuts = memo.cuts → clean

/-- From every sound memo a step gives the same value. -/
def Gives (schemas : Table SchemaRef) {α : Type} (step : StateM Memo α) (value : α) (clean : Prop) : Prop :=
  ∀ memo : Memo, memo.Sound schemas → Outcome schemas memo (step memo) value clean

namespace Gives

variable {α β : Type} {step : StateM Memo α} {next : α → StateM Memo β} {a : α} {b : β}
  {clean clean' : Prop}

theorem pure (a : α) : Gives schemas (Pure.pure a) a True :=
  fun _ sound => ⟨rfl, sound, Nat.le_refl _, fun _ => trivial⟩

theorem bind (first : Gives schemas step a clean) (second : Gives schemas (next a) b clean') :
    Gives schemas (step >>= next) b (clean ∧ clean') := by
  intro memo sound
  obtain ⟨value, between, lower, known⟩ := first memo sound
  obtain ⟨result, after, upper, known'⟩ := second (step memo).2 between
  have whole : (step >>= next) memo = next a (step memo).2 := by
    rw [← value]
    rfl
  rw [whole]
  exact ⟨result, after, Nat.le_trans lower upper,
    fun uncut => ⟨known (by omega), known' (by omega)⟩⟩

theorem weaken (gives : Gives schemas step a clean) (enough : clean → clean') :
    Gives schemas step a clean' := by
  intro memo sound
  obtain ⟨value, after, cuts, known⟩ := gives memo sound
  exact ⟨value, after, cuts, fun uncut => enough (known uncut)⟩

variable {visit : α → StateM Memo β} {g : α → β} {known : α → Prop}

theorem mapM {l : List α} (each : ∀ x ∈ l, Gives schemas (visit x) (g x) (known x)) :
    Gives schemas (l.mapM visit) (l.map g) (∀ x ∈ l, known x) := by
  induction l with
  | nil => exact weaken (pure []) fun _ => by simp
  | cons x rest ih =>
    rw [List.mapM_cons, List.map_cons]
    have others := ih fun y member => each y (by simp [member])
    refine weaken (bind (each x (by simp)) (bind others (pure _))) fun both => ?_
    simpa using ⟨both.1, both.2.1⟩

theorem table {t : Table α} (each : ∀ x ∈ t, Gives schemas (visit x.2) (g x.2) (known x.2)) :
    Gives schemas (Table.traverse visit t) (t.map fun x => (x.1, g x.2)) (∀ x ∈ t, known x.2) := by
  refine mapM fun x member => ?_
  exact weaken (bind (each x member) (pure _)) And.left

theorem option {o : Option α} (each : ∀ x ∈ o, Gives schemas (visit x) (g x) (known x)) :
    Gives schemas (Option.visit visit o) (o.map g) (∀ x ∈ o, known x) := by
  cases o with
  | none => exact weaken (pure none) fun _ => by simp
  | some x => exact weaken (bind (each x rfl) (pure _)) fun both => by simpa using both.1

theorem additional {o : Option (AdditionalSpec α)}
    (each : ∀ x ∈ AdditionalSpec.toList o, Gives schemas (visit x) (g x) (known x)) :
    Gives schemas (AdditionalSpec.visit visit o) (o.map (AdditionalSpec.map g))
      (∀ x ∈ AdditionalSpec.toList o, known x) := by
  rcases o with _ | b | x
  · exact weaken (pure _) fun _ => by simp [AdditionalSpec.toList]
  · exact weaken (pure _) fun _ => by simp [AdditionalSpec.toList]
  · have first := each x (by simp [AdditionalSpec.toList])
    exact weaken (bind first (pure _)) fun both => by simpa [AdditionalSpec.toList] using both.1

theorem subschemas {p : Subschemas α}
    (each : ∀ x ∈ p.toList, Gives schemas (visit x) (g x) (known x)) :
    Gives schemas (p.visit visit) (p.map g) (∀ x ∈ p.toList, known x) := by
  simp only [Subschemas.mem_toList] at each ⊢
  have properties := table fun x member => each x.2 (.inl ⟨x.1, member⟩)
  have items := option (o := p.items) fun x member => each x (by tauto)
  have allOf := mapM (l := p.allOf) fun x member => each x (by tauto)
  have oneOf := mapM (l := p.oneOf) fun x member => each x (by tauto)
  have anyOf := mapM (l := p.anyOf) fun x member => each x (by tauto)
  have not := option (o := p.not) fun x member => each x (by tauto)
  have extra := additional (o := p.additionalProperties) fun x member => each x (by tauto)
  refine weaken (bind properties (bind items (bind allOf (bind oneOf (bind anyOf (bind not (bind extra
    (pure _)))))))) ?_
  rintro ⟨properties, items, allOf, oneOf, anyOf, not, extra, -⟩ x (⟨key, member⟩ | member)
  · exact properties (key, x) member
  · rcases member with member | member | member | member | member | member
    · exact items x member
    · exact allOf x member
    · exact oneOf x member
    · exact anyOf x member
    · exact not x member
    · exact extra x member

end Gives

theorem resolveAt_inline (schemas : Table SchemaRef) (path : List String) (keywords : Keywords)
    (parts : Subschemas SchemaRef) :
    resolveAt schemas path (.inline keywords parts) =
      (do return .inline keywords (← parts.visit (resolveAt schemas path))) := by
  have each : resolveAt schemas path = fun s => traverse _ s := funext fun s => resolveAt.eq_1 ..
  rw [resolveAt, traverse_inline, each]

/-- Resolution of a reference. -/
theorem resolveAt_ref (schemas : Table SchemaRef) (path : List String) (p : String) (memo : Memo) :
    resolveAt schemas path (.ref p) memo = match memo.done.get? p with
      | some found => (found, memo)
      | none =>
        if p ∈ path then (.ref p, { memo with cuts := memo.cuts + 1 })
        else match target? schemas p with
          | none => (.ref p, memo)
          | some target =>
            let out := resolveAt schemas (p :: path) target memo
            (out.1, if out.2.cuts = memo.cuts then { out.2 with done := out.2.done.put p out.1 } else out.2) := by
  rw [resolveAt, traverse]
  change StateT.run _ memo = _
  rw [StateT.run_bind, StateT.run_get, pure_bind]
  cases memo.done.get? p with
  | some found => rfl
  | none =>
    by_cases expanding : p ∈ path
    · simp only [expanding, dite_true, if_true]
      rfl
    · simp only [expanding, dite_false, if_false]
      split
      next absent => simp only [absent]; rfl
      next target found => simp only [found]; rfl

/-- What is kept for a reference is the expansion that is asked for, so that only a reference for which
nothing is kept has to be looked at. -/
theorem Gives.ref {path : List String} {p : String} (stacked : Stacked schemas path (.ref p))
    (missed : ∀ memo : Memo, memo.Sound schemas → memo.done.get? p = none →
      Outcome schemas memo (resolveAt schemas path (.ref p) memo) (expand schemas path (.ref p))
        (Acyclic schemas p)) :
    Gives schemas (resolveAt schemas path (.ref p)) (expand schemas path (.ref p))
      (∀ q, (SchemaRef.ref p).Mentions q → Acyclic schemas q) := by
  have gives : Gives schemas (resolveAt schemas path (.ref p)) (expand schemas path (.ref p))
      (Acyclic schemas p) := by
    intro memo sound
    cases kept : memo.done.get? p with
    | none => exact missed memo sound kept
    | some found =>
      have acyclic := sound.acyclic p found kept
      rw [resolveAt_ref, kept]
      refine ⟨?_, sound, Nat.le_refl _, fun _ => acyclic⟩
      rw [stacked.expand_eq acyclic]
      exact sound.expanded p found kept
  exact gives.weaken fun acyclic q inside => mentions_ref_iff.mp inside ▸ acyclic

/-- Resolution with a sound memo is plain expansion. -/
theorem resolveAt_gives (path : List String) (s : SchemaRef) : Stacked schemas path s →
    Gives schemas (resolveAt schemas path s) (expand schemas path s)
      (∀ p, s.Mentions p → Acyclic schemas p) := by
  induction path, s using expand_induct schemas with
  | cut path p expanding =>
    refine fun stacked => .ref stacked fun memo sound kept => ?_
    rw [resolveAt_ref, kept, expand_ref, if_pos expanding]
    simp only [expanding, if_true]
    exact ⟨rfl, ⟨sound.expanded, sound.acyclic⟩, Nat.le_succ _,
      fun uncut => absurd uncut (Nat.succ_ne_self _)⟩
  | dangling path p fresh absent =>
    refine fun stacked => .ref stacked fun memo sound kept => ?_
    rw [resolveAt_ref, kept, expand_ref, if_neg fresh, absent]
    simp only [fresh, if_false]
    exact ⟨rfl, sound, Nat.le_refl _, fun _ => acyclic_of_dangling absent⟩
  | follow path p target fresh found ih =>
    refine fun stacked => .ref stacked fun memo sound kept => ?_
    obtain ⟨value, after, cuts, clean⟩ := ih (stacked.follow found) memo sound
    have expanded : (resolveAt schemas (p :: path) target memo).1 = expand schemas path (.ref p) := by
      rw [value, expand_ref, if_neg fresh, found]
    rw [resolveAt_ref, kept]
    simp only [fresh, if_false, found]
    split
    next uncut =>
      -- Without a cut no cycle is behind the target, so that the result may be kept.
      have acyclic := acyclic_of_target found (clean uncut)
      refine ⟨expanded, after.put ?_ acyclic, cuts, fun _ => acyclic⟩
      rw [expanded, stacked.expand_eq acyclic]
    next cut => exact ⟨expanded, after, cuts, fun uncut => absurd uncut cut⟩
  | inline path keywords parts ih =>
    intro stacked
    rw [resolveAt_inline, expand_inline]
    have inner := Gives.subschemas fun s member => ih s member (stacked.part member)
    refine .weaken (.bind inner (.pure _)) ?_
    rintro ⟨known, -⟩ p inside
    obtain ⟨s, member, inside⟩ := mentions_inline_iff.mp inside
    exact known s member p inside

end ApiAtlas.SchemaRef
