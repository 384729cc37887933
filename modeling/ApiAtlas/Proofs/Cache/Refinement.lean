import ApiAtlas.Cache.Clock
import ApiAtlas.Proofs.Cache.Contents

/-! Runs of caches as runs of stores of live entries. Sweeps do nothing to such a store, neither those that the
clock brings about nor those that are asked for, so that they change no answer. A value that would expire when
there is no clock any more is not stored, but a live entry may have made room for it by then. -/
namespace ApiAtlas

namespace TimedCache

variable {α : Type}

/-- What is done to a cache with a clock. A sweep at any moment is a cleanup. -/
inductive Action (α : Type) where
  | set (key : String) (value : α) (ttl : Option Nat)
  | get (key : String)
  | invalidate (key : String)
  | clear
  | cleanup
  | sleep (span : Nat)
  | advance (span : Nat)
  | shutdown

namespace Action

def apply : Action α → TimedCache α → TimedCache α
  | .set key value life, t => { t with cache := t.cache.setFor t.now key value (life.getD t.cache.ttl) }
  | .get _, t => t
  | .invalidate key, t => { t with cache := t.cache.invalidate key }
  | .clear, t => { t with cache := t.cache.clear }
  | .cleanup, t => t.sweep t.now
  | .sleep span, t => t.sleep span
  | .advance span, t => t.advance span
  | .shutdown, t => t.shutdown

def answers : Action α → TimedCache α → List (CacheAnswer α)
  | .set _ _ life, t => Cache.answersSet t.now (life.getD t.cache.ttl)
  | .get key, t => [.found (t.cache.get? t.now key)]
  | _, _ => []

def onLive? (ttl : Nat) : Action α → Option (LiveStore.Action α)
  | .set key value life => some (.set key value (life.getD ttl))
  | .get key => some (.get key)
  | .invalidate key => some (.invalidate key)
  | .clear => some .clear
  | .sleep span | .advance span => some (.pass span)
  | .cleanup | .shutdown => none

end Action

/-- One action and what it answers. Where it is open which entry makes room for a new one, each choice is
a step. -/
inductive Step : Action α → TimedCache α → List (CacheAnswer α) → TimedCache α → Prop
  | own (a t) : Step a t (a.answers t) (a.apply t)
  | set {t key value life out after} : t.cache.Sets key value (t.now + life.getD t.cache.ttl) out after →
    Step (.set key value life) t out { t with cache := after }

inductive Run : List (Action α) → TimedCache α → List (CacheAnswer α) → TimedCache α → Prop
  | nil {t} : Run [] t [] t
  | cons {a rest t u v out outs} : Step a t out u → Run rest u outs v → Run (a :: rest) t (out ++ outs) v

def run : List (Action α) → TimedCache α → List (CacheAnswer α) × TimedCache α
  | [], t => ([], t)
  | a :: rest, t => (a.answers t ++ (run rest (a.apply t)).1, (run rest (a.apply t)).2)

theorem run_isRun (actions : List (Action α)) (t : TimedCache α) :
    Run actions t (run actions t).1 (run actions t).2 := by
  induction actions generalizing t with
  | nil => exact .nil
  | cons a rest ih => exact .cons (.own a t) (ih (a.apply t))

def live (t : TimedCache α) : LiveStore α := t.cache.live t.now

variable {t u : TimedCache α} {span : Nat}

/-- Time has passed, and there may have been a sweep. -/
def Passes (t : TimedCache α) (span : Nat) (u : TimedCache α) : Prop :=
  u.now = t.now + span ∧ (u.cache = t.cache ∨ ∃ time ≤ u.now, u.cache = t.cache.cleanup time)

theorem sleep_passes (t : TimedCache α) (span : Nat) : t.Passes span (t.sleep span) := by
  unfold sleep
  cases t.nextSweep with
  | none => exact ⟨rfl, .inl rfl⟩
  | some due =>
    dsimp only
    split
    next => exact ⟨rfl, .inl rfl⟩
    next passed =>
      refine ⟨rfl, .inr ⟨_, ?_, rfl⟩⟩
      have whole := Nat.div_mul_le_self (t.now + span - due) t.interval
      dsimp only [sweep]
      omega

theorem advance_passes (t : TimedCache α) (span : Nat) : t.Passes span (t.advance span) := by
  unfold advance
  cases t.nextSweep with
  | none => exact ⟨rfl, .inl rfl⟩
  | some due =>
    dsimp only
    split
    next => exact ⟨rfl, .inl rfl⟩
    next => exact ⟨rfl, .inr ⟨_, Nat.le_refl _, rfl⟩⟩

structure Alike (c d : Cache α) : Prop where
  capacity : d.capacity = c.capacity
  ttl : d.ttl = c.ttl

theorem Passes.sound (passes : t.Passes span u) (sound : t.cache.Sound) :
    u.cache.Sound ∧ Alike t.cache u.cache := by
  rcases passes.2 with same | ⟨time, -, swept⟩
  · rw [same]
    exact ⟨sound, rfl, rfl⟩
  · rw [swept]
    exact ⟨sound.cleanup time, rfl, rfl⟩

theorem Passes.live (passes : t.Passes span u) (sound : t.cache.Sound) : u.live = t.live.pass span := by
  obtain ⟨clock, same | ⟨time, earlier, swept⟩⟩ := passes
  · rw [TimedCache.live, same, clock, Cache.live_add sound]
    rfl
  · rw [TimedCache.live, swept, Cache.live_cleanup sound earlier, clock, Cache.live_add sound]
    rfl

/-- The steps that are to store a value. -/
theorem Step.sets {key : String} {value : α} {life : Option Nat} {out : List (CacheAnswer α)}
    (step : Step (.set key value life) t out u) (room : 0 < t.cache.capacity) :
    u.now = t.now ∧ t.cache.Sets key value (t.now + life.getD t.cache.ttl) out u.cache := by
  cases step with
  | own => exact ⟨rfl, Cache.sets_setFor room ..⟩
  | set sets => exact ⟨rfl, sets⟩

/-- A step keeps a cache sound, and is a step of the live entries or one that leaves them as they are. -/
theorem Step.refines {a : Action α} {out : List (CacheAnswer α)} (step : Step a t out u) (sound : t.cache.Sound) :
    (u.cache.Sound ∧ Alike t.cache u.cache) ∧
    match a.onLive? t.cache.ttl with
    | some b => LiveStore.Step t.cache.capacity b t.live out u.live
    | none => out = [] ∧ u.live = t.live := by
  cases a with
  | set key value life =>
    obtain ⟨clock, sets⟩ := step.sets sound.room
    refine ⟨⟨sets.sound sound, sets.capacity_eq, sets.ttl_eq⟩, ?_⟩
    simp only [Action.onLive?, live, clock]
    exact sets.live_step sound
  | get key =>
    cases step
    have answer := Cache.get?_eq_live t.cache t.now key
    refine ⟨⟨sound, rfl, rfl⟩, ?_⟩
    simp only [Action.onLive?, Action.answers, Action.apply, answer]
    exact .get
  | invalidate key =>
    cases step
    have unbound := Cache.live_invalidate sound t.now key
    refine ⟨⟨sound.invalidate key, rfl, rfl⟩, ?_⟩
    simp only [Action.onLive?, Action.answers, Action.apply, live, unbound]
    exact .invalidate
  | clear =>
    cases step
    exact ⟨⟨sound.clear, rfl, rfl⟩, .clear⟩
  | cleanup =>
    cases step
    exact ⟨⟨sound.cleanup t.now, rfl, rfl⟩, rfl, Cache.live_cleanup sound (Nat.le_refl t.now)⟩
  | sleep span =>
    cases step
    have passes := t.sleep_passes span
    refine ⟨passes.sound sound, ?_⟩
    simp only [Action.onLive?, Action.answers, Action.apply, passes.live sound]
    exact .pass
  | advance span =>
    cases step
    have passes := t.advance_passes span
    refine ⟨passes.sound sound, ?_⟩
    simp only [Action.onLive?, Action.answers, Action.apply, passes.live sound]
    exact .pass
  | shutdown =>
    cases step
    exact ⟨⟨sound, rfl, rfl⟩, rfl, rfl⟩

theorem Passes.keeps (passes : t.Passes span u) :
    u.cache.capacity = t.cache.capacity ∧ u.cache.entries ⊆ t.cache.entries := by
  rcases passes.2 with same | ⟨time, -, swept⟩
  · rw [same]
    exact ⟨rfl, List.Subset.refl _⟩
  · rw [swept]
    exact ⟨rfl, List.filter_subset_self _⟩

/-- A step that sets nothing adds no entry. -/
theorem Step.keeps {a : Action α} {out : List (CacheAnswer α)} (step : Step a t out u)
    (unset : ∀ key value life, a ≠ .set key value life) :
    u.cache.capacity = t.cache.capacity ∧ u.cache.entries ⊆ t.cache.entries := by
  cases step with
  | set => exact absurd rfl (unset _ _ _)
  | own =>
    cases a with
    | set key value life => exact absurd rfl (unset key value life)
    | get | shutdown => exact ⟨rfl, List.Subset.refl _⟩
    | clear => exact ⟨rfl, List.nil_subset _⟩
    | invalidate | cleanup => exact ⟨rfl, List.filter_subset_self _⟩
    | sleep span => exact (t.sleep_passes span).keeps
    | advance span => exact (t.advance_passes span).keeps

/-- Clocks do not go back, and the default stays. -/
theorem Step.ages {a : Action α} {out : List (CacheAnswer α)} (step : Step a t out u) :
    t.now ≤ u.now ∧ u.cache.ttl = t.cache.ttl := by
  have passes {span : Nat} {v : TimedCache α} (passes : t.Passes span v) :
      t.now ≤ v.now ∧ v.cache.ttl = t.cache.ttl := by
    obtain ⟨clock, same | ⟨time, -, swept⟩⟩ := passes
    · exact ⟨by omega, by rw [same]⟩
    · exact ⟨by omega, by rw [swept]; rfl⟩
  cases step with
  | set sets => exact ⟨Nat.le_refl _, sets.ttl_eq⟩
  | own =>
    cases a with
    | set key value life => exact ⟨Nat.le_refl _, Cache.ttl_setFor ..⟩
    | sleep span => exact passes (t.sleep_passes span)
    | advance span => exact passes (t.advance_passes span)
    | get | invalidate | clear | cleanup | shutdown => exact ⟨Nat.le_refl _, rfl⟩

/-- A run of a cache is a run of its live entries. -/
theorem Run.refines {actions : List (Action α)} {outs : List (CacheAnswer α)} (run : Run actions t outs u)
    (sound : t.cache.Sound) : (u.cache.Sound ∧ Alike t.cache u.cache) ∧
    LiveStore.Run t.cache.capacity (actions.filterMap (Action.onLive? t.cache.ttl)) t.live outs u.live := by
  induction run with
  | nil => exact ⟨⟨sound, rfl, rfl⟩, .nil⟩
  | @cons a rest t u v out outs step _ ih =>
    obtain ⟨⟨sound', alike⟩, live⟩ := step.refines sound
    obtain ⟨⟨last, alike'⟩, further⟩ := ih sound'
    refine ⟨⟨last, alike'.capacity.trans alike.capacity, alike'.ttl.trans alike.ttl⟩, ?_⟩
    rw [alike.capacity, alike.ttl] at further
    rw [List.filterMap_cons]
    cases effect : a.onLive? t.cache.ttl with
    | some b =>
      rw [effect] at live
      exact .cons live further
    | none =>
      rw [effect] at live
      obtain ⟨rfl, same⟩ := live
      rw [← same]
      exact further

theorem live_of_empty {ttl maxEntries : Nat} (fresh : t.cache = .empty ttl maxEntries) :
    t.live = ⟨t.now, fun _ => none⟩ := by
  rw [live, fresh]
  rfl

/-- What a run makes of a cache that starts empty. -/
theorem Run.refines_of_empty {ttl maxEntries : Nat} {actions : List (Action α)} {outs : List (CacheAnswer α)}
    (run : Run actions t outs u) (fresh : t.cache = .empty ttl maxEntries) :
    u.cache.Sound ∧ u.cache.capacity = max maxEntries 1 ∧ u.cache.ttl = ttl ∧
    LiveStore.Run (max maxEntries 1) (actions.filterMap (Action.onLive? ttl)) ⟨t.now, fun _ => none⟩
      outs u.live := by
  have start : t.cache.Sound := fresh ▸ Cache.sound_empty ttl maxEntries
  obtain ⟨⟨sound, alike⟩, live⟩ := run.refines start
  have capacity := alike.capacity
  have lifetime := alike.ttl
  rw [fresh] at capacity lifetime
  rw [live_of_empty fresh, fresh] at live
  exact ⟨sound, capacity, lifetime, live⟩

/-- A cache that starts empty is a store of live entries, with as many places as it has room, whichever
entries are dropped where several expire first. A value is stored exactly if the clock shows its expiry. No live
entry is dropped while an expired one is stored, and two runs that differ in sweeps only, in which no two entries
expire together, answer the same. -/
theorem refines_liveStore {ttl maxEntries : Nat} (fresh : t.cache = .empty ttl maxEntries) :
    (∀ actions, Run actions t (run actions t).1 (run actions t).2) ∧
    (∀ actions outs u, Run actions t outs u →
      LiveStore.Run (max maxEntries 1) (actions.filterMap (Action.onLive? ttl)) ⟨t.now, fun _ => none⟩
        outs u.live ∧
      (∀ key, u.cache.get? u.now key = (u.live.bound key).map (·.1)) ∧
      ∀ key value life out v, Step (.set key value life) u out v →
        (u.now + life.getD ttl < clockEnd ∧ out = [] ∨ clockEnd ≤ u.now + life.getD ttl ∧ out = [.overflow]) ∧
        ∀ e ∈ u.cache.entries, Cache.isLive u.now e = true → e.key ≠ key → e ∉ v.cache.entries →
          ∀ d ∈ u.cache.entries, Cache.isLive u.now d = true) ∧
    (∀ s : TimedCache α, s.cache = .empty ttl maxEntries → s.now = t.now →
      ∀ actions actions' outs outs' u v, Run actions t outs u → Run actions' s outs' v →
      actions.filterMap (Action.onLive? ttl) = actions'.filterMap (Action.onLive? ttl) →
      (LiveStore.expiries t.now (actions.filterMap (Action.onLive? ttl))).Nodup → outs = outs') := by
  refine ⟨fun actions => run_isRun actions t, fun actions outs u run => ?_, ?_⟩
  · obtain ⟨sound, -, lifetime, live⟩ := run.refines_of_empty fresh
    refine ⟨live, fun key => Cache.get?_eq_live u.cache u.now key, ?_⟩
    intro key value life out v step
    have sets := (step.sets sound.room).2
    rw [lifetime] at sets
    exact ⟨sets.answered, fun e member alive other gone => sets.all_live sound member alive other gone⟩
  · intro s again clock actions actions' outs outs' u v one two same distinct
    obtain ⟨-, -, -, first⟩ := one.refines_of_empty fresh
    obtain ⟨-, -, -, second⟩ := two.refines_of_empty again
    rw [← same, clock] at second
    refine (first.unique second ?_ ?_ distinct).1
    · exact fun _ _ _ _ _ absent => nomatch absent
    · exact fun _ _ _ absent => nomatch absent

/-- In a cache with two places an entry has expired when a third key comes. Whether it was swept before or
makes room only then, the answers are the same. -/
theorem third_key_swept_or_not :
    let before : List (Action Nat) := [.set "a" 1 (some 5), .set "b" 2 none]
    let after : List (Action Nat) := [.set "c" 3 (some 20), .get "a", .get "b", .get "c"]
    (run (before ++ .sleep 12 :: .cleanup :: after) (.start (.empty 60 2) 10)).1 =
      (run (before ++ .advance 12 :: after) (.unswept (.empty 60 2))).1 := by
  intro before after
  have whole := refines_liveStore (t := .start (.empty 60 2) 10) (α := Nat) rfl
  exact whole.2.2 (.unswept (.empty 60 2)) rfl rfl (before ++ .sleep 12 :: .cleanup :: after)
    (before ++ .advance 12 :: after) _ _ _ _ (run_isRun _ _) (run_isRun _ _) rfl (by decide)

/-- A value that is to be stored until the end of the clock takes a place from a live entry and is not stored. -/
theorem place_taken_for_nothing :
    ¬ ∀ (actions : List (Action Nat)) (outs : List (CacheAnswer Nat)) (t u : TimedCache Nat) (key : String)
      (value : Nat) (life : Option Nat) (out : List (CacheAnswer Nat)),
      Run actions (.unswept (.empty 60 1)) outs t → Step (.set key value life) t out u →
      ∃ r, t.live.MakesRoom 1 key r ∧ u.live = r.bindUntil key value (t.now + life.getD 60) := by
  intro binds
  let t : TimedCache Nat := (run [.set "a" 1 none] (.unswept (.empty 60 1))).2
  let u : TimedCache Nat := (Action.set "b" 2 (some clockEnd)).apply t
  obtain ⟨r, makes, same⟩ := binds _ _ t u "b" 2 (some clockEnd) _ (run_isRun _ _) (.own _ t)
  have ends : t.now + (some clockEnd).getD 60 = clockEnd := Nat.zero_add clockEnd
  have early : r.now < clockEnd := by
    rw [makes.now_eq]
    decide
  have bound : u.live.bound "b" = some (2, clockEnd) := by
    rw [same, ends, LiveStore.bindUntil_self, if_pos early]
  have absent : u.live.bound "b" = none := by decide
  exact absurd (bound.symm.trans absent) (by simp)

end TimedCache
end ApiAtlas
