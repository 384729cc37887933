import ApiAtlas.Proofs.Document.Resolution
import Mathlib.Algebra.Order.BigOperators.Group.List
import Mathlib.Algebra.Order.Ring.Nat
import Mathlib.Data.Finset.Basic

/-! Resolution with a set of visited references. Here the references being expanded are not handed down but
stand in a set that changes on the way: a reference is put into it when its expansion begins and taken out of it
when that returns. Calls nest to a limited depth, and one call is told apart from those inside it. Every call
restores the set, so that each one finds there what is being expanded around it and nothing else; and since a
call inside another one opens another component or stands below it, a depth is enough that depends on the
schema and the components only. -/
namespace ApiAtlas

theorem Subschemas.sizeOf_lt {parts : Subschemas SchemaRef} {s : SchemaRef} (member : s ∈ parts.toList) :
    sizeOf s < sizeOf parts := by
  obtain ⟨properties, additional, items, allOf, oneOf, anyOf, not⟩ := parts
  simp only [Subschemas.mem_toList] at member
  simp only [Subschemas.mk.sizeOf_spec]
  rcases member with ⟨key, member⟩ | rfl | member | member | member | rfl | member
  · have entry := List.sizeOf_lt_of_mem member
    simp only [Prod.mk.sizeOf_spec] at entry
    omega
  · simp only [Option.some.sizeOf_spec]
    omega
  · have entry := List.sizeOf_lt_of_mem member
    omega
  · have entry := List.sizeOf_lt_of_mem member
    omega
  · have entry := List.sizeOf_lt_of_mem member
    omega
  · simp only [Option.some.sizeOf_spec]
    omega
  · rcases additional with _ | b | t
    · exact absurd member List.not_mem_nil
    · exact absurd member List.not_mem_nil
    · obtain rfl := List.mem_singleton.mp member
      simp only [Option.some.sizeOf_spec, AdditionalSpec.schema.sizeOf_spec]
      omega

namespace SchemaRef

/-- The number of schemas in a schema, itself included. -/
def size : SchemaRef → Nat
  | .ref _ => 1
  | .inline _ parts => 1 + (parts.toList.attach.map fun s => s.1.size).sum
termination_by s => sizeOf s
decreasing_by
  have smaller := Subschemas.sizeOf_lt s.2
  simp only [inline.sizeOf_spec]
  omega

theorem size_inline (keywords : Keywords) (parts : Subschemas SchemaRef) :
    size (.inline keywords parts) = 1 + (parts.toList.map size).sum := by
  rw [size, List.attach_map_val]

theorem size_pos (s : SchemaRef) : 0 < s.size := by
  cases s with
  | ref p => simp [size]
  | inline keywords parts =>
    rw [size_inline]
    omega

theorem size_lt_of_mem (keywords : Keywords) {parts : Subschemas SchemaRef} {s : SchemaRef}
    (member : s ∈ parts.toList) : s.size < size (.inline keywords parts) := by
  have part := List.le_sum_of_mem (List.mem_map_of_mem (f := size) member)
  rw [size_inline]
  omega

/-- The number of schemas in the components to which none of some references leads. -/
def unopenedSize (schemas : Table SchemaRef) (path : List String) : Nat :=
  ((schemas.filter fun (key, _) => !path.any (Reference.leadsTo "schemas" · key)).map (·.2.size)).sum

theorem unopenedSize_add_le {schemas : Table SchemaRef} {path : List String} {p : String} {target : SchemaRef}
    (fresh : p ∉ path) (found : target? schemas p = some target) :
    unopenedSize schemas (p :: path) + target.size ≤ unopenedSize schemas path := by
  obtain ⟨before, key, after, whole, leads, unseen⟩ := exists_unopened fresh found
  have fewer (part : Table SchemaRef) : unopenedSize part (p :: path) ≤ unopenedSize part path := by
    refine List.Sublist.sum_le_sum (.map _ (List.monotone_filter_right _ fun entry closed => ?_)) fun _ _ => by simp
    simp_all
  have hb := fewer before
  have ha := fewer after
  rw [whole]
  simp only [unopenedSize, List.filter_append, List.map_append, List.sum_append] at hb ha ⊢
  simp only [List.filter_cons, List.any_cons, leads, unseen, Bool.true_or, Bool.not_true, Bool.not_false,
    Bool.false_eq_true, if_false, if_true, List.map_cons, List.sum_cons] at hb ha ⊢
  omega

/-- A depth to which the calls for a schema may nest while some references are being expanded. -/
def depth (schemas : Table SchemaRef) (path : List String) (s : SchemaRef) : Nat :=
  s.size + unopenedSize schemas path

end SchemaRef

inductive Stop where
  | reference (e : ReferenceError)
  | tooDeep

instance : MonadExceptOf ReferenceError (Except Stop) where
  throw e := .error (.reference e)
  tryCatch x handle := match x with
    | .error (.reference e) => handle e
    | other => other

namespace SchemaRef

structure Resolver where
  visited : Finset String := ∅
  memo : Memo := {}

abbrev Visit := StateT Resolver (Except Stop)

/-- One call; `inner` makes the calls inside it. -/
def call (schemas : Table SchemaRef) (inner : SchemaRef → Visit SchemaRef) : SchemaRef → Visit SchemaRef
  | .ref p => do
    let before ← get
    match before.memo.done.get? p with
    | some found => return found
    | none =>
      if p ∈ before.visited then
        set { before with memo.cuts := before.memo.cuts + 1 }
        return .ref p
      else match target? schemas p with
        | none => return .ref p
        | some target => do
          set { before with visited := insert p before.visited }
          let result ← inner target
          modify fun after => { after with visited := after.visited.erase p }
          modify fun after =>
            if after.memo.cuts = before.memo.cuts then
              { after with memo.done := after.memo.done.put p result }
            else after
          return result
  | .inline keywords parts => do return .inline keywords (← parts.visit inner)

/-- A call for a reference. -/
theorem call_ref (schemas : Table SchemaRef) (inner : SchemaRef → Visit SchemaRef) (p : String)
    (visited : Finset String) (memo : Memo) :
    call schemas inner (.ref p) ⟨visited, memo⟩ = match memo.done.get? p with
      | some found => .ok (found, ⟨visited, memo⟩)
      | none =>
        if p ∈ visited then .ok (.ref p, ⟨visited, { memo with cuts := memo.cuts + 1 }⟩)
        else match target? schemas p with
          | none => .ok (.ref p, ⟨visited, memo⟩)
          | some target =>
            inner target ⟨insert p visited, memo⟩ >>= fun out => .ok (out.1, ⟨out.2.visited.erase p,
              if out.2.memo.cuts = memo.cuts then { out.2.memo with done := out.2.memo.done.put p out.1 }
              else out.2.memo⟩) := by
  rw [call]
  change StateT.run _ (⟨visited, memo⟩ : Resolver) = _
  rw [StateT.run_bind, StateT.run_get]
  change StateT.run _ (⟨visited, memo⟩ : Resolver) = _
  cases memo.done.get? p with
  | some found => rfl
  | none =>
    by_cases expanding : p ∈ visited
    · simp only [expanding, if_true]
      rfl
    · simp only [expanding, if_false]
      cases target? schemas p with
      | none => rfl
      | some target =>
        refine congrArg (inner target ⟨insert p visited, memo⟩ >>= ·) (funext fun out => ?_)
        change Except.ok (out.1, if out.2.memo.cuts = memo.cuts then _ else _) = _
        split <;> rfl

def nested (schemas : Table SchemaRef) : Nat → SchemaRef → Visit SchemaRef
  | 0 => fun _ _ => .error .tooDeep
  | limit + 1 => call schemas (nested schemas limit)

/-- A call that is made directly inside another one: below it, with the same references visited, or for the
component to which it refers, with that reference visited as well. -/
inductive Inside (schemas : Table SchemaRef) : Finset String × SchemaRef → Finset String × SchemaRef → Prop
  | part {visited keywords parts s} : s ∈ parts.toList →
    Inside schemas (visited, s) (visited, .inline keywords parts)
  | target {visited p s} : p ∉ visited → target? schemas p = some s →
    Inside schemas (insert p visited, s) (visited, .ref p)

/-- There is no end of calls inside calls. -/
theorem inside_wellFounded (schemas : Table SchemaRef) : WellFounded (Inside schemas) := by
  refine ⟨fun ⟨visited, s⟩ => ?_⟩
  rw [← visited.toList_toFinset]
  generalize visited.toList = path
  induction path, s using expand_induct schemas with
  | cut path p expanding =>
    refine ⟨_, fun _ inside => ?_⟩
    cases inside with
    | target fresh _ => exact absurd (List.mem_toFinset.mpr expanding) fresh
  | dangling path p _ absent =>
    refine ⟨_, fun _ inside => ?_⟩
    cases inside with
    | target _ found => exact absurd (absent.symm.trans found) (by simp)
  | follow path p s _ found ih =>
    refine ⟨_, fun _ inside => ?_⟩
    cases inside with
    | target _ also =>
      obtain rfl := Option.some.inj (found.symm.trans also)
      rwa [List.toFinset_cons] at ih
  | inline path keywords parts ih =>
    refine ⟨_, fun _ inside => ?_⟩
    cases inside with
    | part member => exact ih _ member

/-- From a set of visited references a step leaves the set as it is, if it comes to an end. -/
def RestoresVisited {α : Type} (visited : Finset String) (x : Visit α) : Prop :=
  ∀ memo a after, x ⟨visited, memo⟩ = .ok (a, after) → after.visited = visited

/-- From a set of visited references two steps do the same, and restore the set. -/
def Agree {α : Type} (visited : Finset String) (x y : Visit α) : Prop :=
  ∀ memo, x ⟨visited, memo⟩ = y ⟨visited, memo⟩ ∧
    ∀ a after, x ⟨visited, memo⟩ = .ok (a, after) → after.visited = visited

theorem visited_eq_of_ok {α : Type} {visited : Finset String} {memo : Memo} {a : α} (b : α) (after : Resolver)
    (made : (Except.ok (a, ⟨visited, memo⟩) : Except Stop (α × Resolver)) = .ok (b, after)) :
    after.visited = visited := by
  obtain ⟨-, rfl⟩ := Prod.mk.inj (Except.ok.inj made)
  rfl

namespace Agree

variable {α β : Type} {visited : Finset String} {x y : Visit α} {f g : α → Visit β}

theorem restores (agree : Agree visited x y) : RestoresVisited visited x := fun memo => (agree memo).2

theorem pure (a : α) : Agree visited (Pure.pure a) (Pure.pure a : Visit α) := fun _ => ⟨rfl, visited_eq_of_ok⟩

theorem bind (first : Agree visited x y) (rest : ∀ a, Agree visited (f a) (g a)) :
    Agree visited (x >>= f) (y >>= g) := by
  intro memo
  have whole {z : Visit α} {h : α → Visit β} :
      (z >>= h) ⟨visited, memo⟩ = z ⟨visited, memo⟩ >>= fun out => h out.1 out.2 := rfl
  obtain ⟨same, restored⟩ := first memo
  rw [whole, whole, ← same]
  cases made : x ⟨visited, memo⟩ with
  | error e => exact ⟨rfl, fun _ _ absurd => nomatch absurd⟩
  | ok out =>
    obtain ⟨a, visited', memo'⟩ := out
    obtain rfl : visited' = visited := restored a _ made
    exact rest a memo'

def relation (visited : Finset String) : StepRelation Visit Visit := ⟨Agree visited, pure, bind⟩

end Agree

/-- What a call does depends on the calls directly inside it, and it restores what they restore. -/
theorem call_agree (schemas : Table SchemaRef) {inner inner' : SchemaRef → Visit SchemaRef} {visited : Finset String}
    {s : SchemaRef} (agree : ∀ visited' t, Inside schemas (visited', t) (visited, s) →
      Agree visited' (inner t) (inner' t)) :
    Agree visited (call schemas inner s) (call schemas inner' s) := by
  cases s with
  | inline keywords parts =>
    refine Agree.bind ?_ fun _ => Agree.pure _
    exact (Agree.relation visited).subschemas fun s member => agree visited s (.part member)
  | ref p =>
    intro memo
    rw [call_ref, call_ref]
    cases memo.done.get? p with
    | some found => exact ⟨rfl, visited_eq_of_ok⟩
    | none =>
      by_cases expanding : p ∈ visited
      · simp only [expanding, if_true]
        exact ⟨trivial, visited_eq_of_ok⟩
      · simp only [expanding, if_false]
        cases found : target? schemas p with
        | none => exact ⟨rfl, visited_eq_of_ok⟩
        | some target =>
          obtain ⟨same, restored⟩ := agree _ _ (.target expanding found) memo
          simp only [← same, true_and]
          cases made : inner target ⟨insert p visited, memo⟩ with
          | error e => exact fun _ _ absurd => nomatch absurd
          | ok out =>
            obtain ⟨a, visited', memo'⟩ := out
            obtain rfl : visited' = insert p visited := restored a _ made
            change ∀ b after, Except.ok (a, (⟨(insert p visited).erase p, _⟩ : Resolver)) = _ → _
            rw [Finset.erase_insert expanding]
            exact visited_eq_of_ok

/-- However deep calls may nest, they restore the set. -/
theorem nested_restores (schemas : Table SchemaRef) (limit : Nat) (visited : Finset String) (s : SchemaRef) :
    RestoresVisited visited (nested schemas limit s) := by
  have agree : ∀ visited s, Agree visited (nested schemas limit s) (nested schemas limit s) := by
    induction limit with
    | zero => exact fun visited s memo => ⟨rfl, fun _ _ absurd => nomatch absurd⟩
    | succ limit ih => exact fun visited s => call_agree schemas fun visited' t _ => ih visited' t
  exact (agree visited s).restores

/-- A step without limits as one that could stop. -/
structure Embedding (n : Type → Type) [Monad n] where
  run {α : Type} : n α → Except Stop α
  pure {α : Type} (a : α) : run (Pure.pure a) = .ok a
  bind {α β : Type} (x : n α) (f : α → n β) : run (x >>= f) = run x >>= fun a => run (f a)

namespace Embedding

def value : Embedding Id := ⟨fun a => .ok a, fun _ => rfl, fun _ _ => rfl⟩

def report : Embedding (Except ReferenceError) where
  run := Except.mapError .reference
  pure _ := rfl
  bind x _ := by cases x <;> rfl

end Embedding

/-- From a set of visited references a step does what one does that keeps a memo only, and restores the set. -/
def Tracks {n : Type → Type} [Monad n] (embed : Embedding n) (visited : Finset String) {α : Type} (x : Visit α)
    (y : StateT Memo n α) : Prop :=
  ∀ memo, x ⟨visited, memo⟩ = (embed.run (y memo)).map fun out => (out.1, ⟨visited, out.2⟩)

namespace Tracks

variable {n : Type → Type} [Monad n] {embed : Embedding n} {visited : Finset String} {α β : Type}
  {x : Visit α} {y : StateT Memo n α} {f : α → Visit β} {g : α → StateT Memo n β}

theorem pure (a : α) : Tracks embed visited (Pure.pure a) (Pure.pure a) := by
  intro memo
  change _ = (embed.run (Pure.pure (a, memo))).map _
  rw [embed.pure]
  rfl

theorem bind (first : Tracks embed visited x y) (rest : ∀ a, Tracks embed visited (f a) (g a)) :
    Tracks embed visited (x >>= f) (y >>= g) := by
  intro memo
  change x ⟨visited, memo⟩ >>= (fun out => f out.1 out.2) = (embed.run (y memo >>= fun out => g out.1 out.2)).map _
  rw [first memo, embed.bind]
  cases embed.run (y memo) with
  | error e => rfl
  | ok out => exact rest out.1 out.2

def relation (embed : Embedding n) (visited : Finset String) : StepRelation Visit (StateT Memo n) :=
  ⟨Tracks embed visited, pure, bind⟩

theorem lift (x : Except ReferenceError α) : Tracks .report visited (liftExcept x) (liftExcept x) := by
  intro memo
  cases x <;> rfl

end Tracks

/-- Calls that may nest deep enough do what resolution does that hands down what is being expanded. -/
theorem nested_tracks (schemas : Table SchemaRef) (path : List String) (s : SchemaRef) : ∀ limit,
    depth schemas path s ≤ limit →
    Tracks .value path.toFinset (nested schemas limit s) (resolveAt schemas path s) := by
  have opened {path s limit} (enough : depth schemas path s ≤ limit) : ∃ n, limit = n + 1 :=
    Nat.exists_eq_succ_of_ne_zero (by have := s.size_pos; unfold depth at enough; omega)
  induction path, s using expand_induct schemas with
  | cut path p expanding =>
    intro limit enough memo
    obtain ⟨limit, rfl⟩ := opened enough
    rw [nested, call_ref, resolveAt_ref]
    cases memo.done.get? p with
    | some found => rfl
    | none =>
      simp only [List.mem_toFinset, expanding, if_true]
      rfl
  | dangling path p fresh absent =>
    intro limit enough memo
    obtain ⟨limit, rfl⟩ := opened enough
    rw [nested, call_ref, resolveAt_ref]
    cases memo.done.get? p with
    | some found => rfl
    | none =>
      simp only [List.mem_toFinset, fresh, if_false, absent]
      rfl
  | follow path p target fresh found ih =>
    intro limit enough memo
    obtain ⟨limit, rfl⟩ := opened enough
    -- Opening the target's component takes its size from what is not opened yet.
    have deeper : depth schemas (p :: path) target ≤ limit := by
      have less := unopenedSize_add_le fresh found
      simp only [depth, size] at enough ⊢
      omega
    have inner := ih limit deeper memo
    rw [List.toFinset_cons] at inner
    rw [nested, call_ref, resolveAt_ref]
    cases memo.done.get? p with
    | some found => rfl
    | none =>
      have taken : (insert p path.toFinset).erase p = path.toFinset :=
        Finset.erase_insert (mt List.mem_toFinset.mp fresh)
      simp only [List.mem_toFinset, fresh, if_false, found, inner]
      change Except.ok (_, (⟨(insert p path.toFinset).erase p, _⟩ : Resolver)) = _
      rw [taken]
      rfl
  | inline path keywords parts ih =>
    intro limit enough
    obtain ⟨limit, rfl⟩ := opened enough
    rw [nested, call, resolveAt_inline]
    refine Tracks.bind ((Tracks.relation _ _).subschemas fun s member => ?_) fun _ => Tracks.pure _
    have smaller := size_lt_of_mem keywords member
    refine ih s member limit ?_
    unfold depth at enough ⊢
    omega

/-- Parts that stand next to each other come out as each does if it is the only one: what is expanded in one of
them is not taken for a cycle in another one. -/
theorem nested_apart {schemas : Table SchemaRef} {path : List String} {keywords : Keywords}
    {parts : Subschemas SchemaRef} {memo : Memo} {limit : Nat} (reached : Call schemas path (.inline keywords parts))
    (left : memo.Left schemas) (enough : depth schemas path (.inline keywords parts) ≤ limit) :
    ∃ f : SchemaRef → SchemaRef,
      (∃ after, nested schemas limit (.inline keywords parts) ⟨path.toFinset, memo⟩ =
        .ok (.inline keywords (parts.map f), after)) ∧
      ∀ s ∈ parts.toList, ∃ after, nested schemas limit s ⟨path.toFinset, memo⟩ = .ok (f s, after) := by
  have expands {s} (reached : Call schemas path s) (enough : depth schemas path s ≤ limit) :
      ∃ after, nested schemas limit s ⟨path.toFinset, memo⟩ = .ok (expand schemas path s, after) := by
    have outcome := resolveAt_gives path s reached.stacked memo left.sound
    rw [← outcome.value_eq]
    exact ⟨_, nested_tracks schemas path s limit enough memo⟩
  refine ⟨expand schemas path, ?_, fun s member => expands (reached.part member) ?_⟩
  · rw [← expand_inline]
    exact expands reached enough
  · have smaller := size_lt_of_mem keywords member
    unfold depth at enough ⊢
    omega

end SchemaRef

namespace Document

/-- As `resolve`, with a set of visited references and calls that nest for each schema to a depth at most. -/
def resolveWithin (limit : SchemaRef → Nat) (d : Document) : SchemaRef.Visit Document :=
  Resolve.document d.parts (fun s => SchemaRef.nested d.parts.schemas (limit s) s) d

theorem resolveWithin_eq (d : Document) {limit : SchemaRef → Nat}
    (enough : ∀ s, SchemaRef.depth d.parts.schemas [] s ≤ limit s) :
    (d.resolveWithin limit).run' {} = d.resolve.mapError .reference := by
  let plain (s : SchemaRef) : StateT SchemaRef.Memo (Except ReferenceError) SchemaRef :=
    fun memo => .ok (s.resolve d.parts.schemas memo)
  have each (s : SchemaRef) : (SchemaRef.Tracks.relation .report ∅).Rel
      (SchemaRef.nested d.parts.schemas (limit s) s) (plain s) :=
    SchemaRef.nested_tracks d.parts.schemas [] s (limit s) (enough s)
  have tracks := (SchemaRef.Tracks.relation .report ∅).document (c := d.parts) each SchemaRef.Tracks.lift d {}
  change Except.map Prod.fst (d.resolveWithin limit {}) =
    (Except.map Prod.fst (Resolve.document d.parts plain d {})).mapError _
  rw [resolveWithin, tracks]
  cases Resolve.document d.parts plain d {} <;> rfl

open SchemaRef in
/-- Resolution comes to an end. There is no end of calls inside calls, a call depends on the calls directly inside
it only, and it restores the set of visited references. A depth is enough that depends on the components and the
schema only: then a call gives what resolution gives that hands down what is being expanded, parts that stand next
to each other come out as each does alone, and a document is resolved, or found to miss a component, as it is
without a limit. -/
theorem resolution_terminates (d : Document) :
    WellFounded (Inside d.parts.schemas) ∧
    (∀ inner inner' visited s,
      (∀ visited' t, Inside d.parts.schemas (visited', t) (visited, s) → Agree visited' (inner t) (inner' t)) →
      Agree visited (call d.parts.schemas inner s) (call d.parts.schemas inner' s)) ∧
    (∀ limit visited s, RestoresVisited visited (nested d.parts.schemas limit s)) ∧
    (∀ path s limit, depth d.parts.schemas path s ≤ limit →
      Tracks .value path.toFinset (nested d.parts.schemas limit s) (resolveAt d.parts.schemas path s)) ∧
    (∀ path keywords parts (memo : Memo) limit, Call d.parts.schemas path (.inline keywords parts) →
      memo.Left d.parts.schemas → depth d.parts.schemas path (.inline keywords parts) ≤ limit →
      ∃ f : SchemaRef → SchemaRef,
        (∃ after, nested d.parts.schemas limit (.inline keywords parts) ⟨path.toFinset, memo⟩ =
          .ok (.inline keywords (parts.map f), after)) ∧
        ∀ s ∈ parts.toList, ∃ after, nested d.parts.schemas limit s ⟨path.toFinset, memo⟩ = .ok (f s, after)) ∧
    (∀ limit, (∀ s, depth d.parts.schemas [] s ≤ limit s) →
      (d.resolveWithin limit).run' {} = d.resolve.mapError .reference) :=
  ⟨inside_wellFounded _, fun _ _ _ _ => call_agree _, nested_restores _, nested_tracks _,
    fun _ _ _ _ _ => nested_apart, fun _ => d.resolveWithin_eq⟩

/-- A component below itself, two below each other, two that are references to each other, one that is used
twice, and one that is a reference to nothing. -/
def tangle : Document where
  components := some { schemas := [
    ("Node", .inline {} { items := some (.ref "#/components/schemas/Node") }),
    ("Folder", .inline {} { properties := [("files", .ref "#/components/schemas/File")] }),
    ("File", .inline {} { properties := [("folder", .ref "#/components/schemas/Folder")] }),
    ("Here", .ref "#/components/schemas/There"),
    ("There", .ref "#/components/schemas/Here"),
    ("Pair", .inline {} { properties := [("first", .ref "#/components/schemas/Leaf"),
                                         ("second", .ref "#/components/schemas/Leaf")] }),
    ("Leaf", .inline {} {}),
    ("Lost", .ref "#/components/schemas/Gone")] }

open SchemaRef in
/-- It is resolved; so is the one of two references to each other inside the other one, and the two uses of a
component next to each other are resolved alike, each of them by one call inside that for the reference. -/
theorem tangle_resolved :
    (tangle.resolveWithin (depth tangle.parts.schemas [])).run' {} = tangle.resolve.mapError .reference ∧
    Tracks .value ["#/components/schemas/Here"].toFinset
      (nested tangle.parts.schemas (depth tangle.parts.schemas ["#/components/schemas/Here"]
        (.ref "#/components/schemas/There")) (.ref "#/components/schemas/There"))
      (resolveAt tangle.parts.schemas ["#/components/schemas/Here"] (.ref "#/components/schemas/There")) ∧
    (∃ s after, nested tangle.parts.schemas 16 (.inline {} { properties := [
        ("first", .ref "#/components/schemas/Leaf"), ("second", .ref "#/components/schemas/Leaf")] }) {} =
      .ok (.inline {} { properties := [("first", s), ("second", s)] }, after)) ∧
    Agree ∅ (call tangle.parts.schemas (nested tangle.parts.schemas 1) (.ref "#/components/schemas/Leaf"))
      (call tangle.parts.schemas (nested tangle.parts.schemas 2) (.ref "#/components/schemas/Leaf")) := by
  obtain ⟨-, agree, restores, tracks, apart, resolved⟩ := tangle.resolution_terminates
  refine ⟨resolved _ fun s => Nat.le_refl _, tracks _ _ _ (Nat.le_refl _), ?_, ?_⟩
  · have enough : depth tangle.parts.schemas [] (.inline {} { properties := [
        ("first", .ref "#/components/schemas/Leaf"), ("second", .ref "#/components/schemas/Leaf")] }) ≤ 16 := by
      simp [depth, unopenedSize, size, size_inline, tangle, parts, Subschemas.toList, AdditionalSpec.toList]
    obtain ⟨f, ⟨after, made⟩, -⟩ := apart [] _ _ {} 16 (.top _) .start enough
    exact ⟨f (.ref "#/components/schemas/Leaf"), after, made⟩
  · refine agree _ _ _ _ fun visited' t inside => ?_
    cases inside with
    | target _ found =>
      obtain rfl : SchemaRef.inline {} {} = t := Option.some.inj found
      exact fun memo => ⟨rfl, restores 1 _ _ memo⟩

end Document
end ApiAtlas
