import ApiAtlas.Proofs.Cache.Refinement

/-! How much is in a cache. What is counted as active is what can be found, and what is counted as expired is
what a cleanup drops. A cache never outgrows its room: storing a value takes one entry away at most, and that
one expires first. -/
namespace ApiAtlas

namespace Cache

variable {α : Type} {c after : Cache α} {now expiry : Nat} {key : String} {value : α}

structure Counted (c : Cache α) (now : Nat) : Prop where
  total : (c.stats now).total = c.size
  parts : (c.stats now).active + (c.stats now).expired = c.size
  active : (c.stats now).active = {key | (c.get? now key).isSome}.ncard
  dropped : c.dropped now = (c.stats now).expired
  cleaned : ((c.cleanup now).stats now).expired = 0

/-- What goes for a key: nothing but an entry that expires first, if the key is new and no place is free. -/
def Spares (c : Cache α) (key : String) (after : Cache α) : Prop :=
  ∀ e ∈ c.entries, e.key ≠ key → e ∉ after.entries →
    (∀ d ∈ c.entries, d.key ≠ key) ∧ c.size = c.capacity ∧ (∀ d ∈ c.entries, e.expiry ≤ d.expiry) ∧
    ∀ d ∈ c.entries, d.key ≠ key → d ∉ after.entries → d = e

/-- What becomes of a cache when a value is stored: the value is there, all else was there before, and at most
one entry of another key is gone. -/
structure Admits (c : Cache α) (key : String) (value : α) (expiry : Nat) (after : Cache α) : Prop where
  stored : ⟨key, value, expiry⟩ ∈ after.entries
  older : ∀ e ∈ after.entries, e = ⟨key, value, expiry⟩ ∨ e ∈ c.entries
  gone : c.Spares key after

/-- What becomes of a cache when a value cannot be stored: at most one entry is gone, as if it were stored. -/
structure Refuses (c : Cache α) (key : String) (after : Cache α) : Prop where
  older : after.entries ⊆ c.entries
  gone : c.Spares key after

theorem active_eq (c : Cache α) (now : Nat) :
    (c.stats now).active = (c.entries.filter (isLive now)).length :=
  List.countP_eq_length_filter

theorem active_le (c : Cache α) (now : Nat) : (c.stats now).active ≤ c.size :=
  List.countP_le_length

/-- A key is found as long as it is bound among the live entries. -/
theorem found_eq_keys_live (c : Cache α) (now : Nat) :
    {key | (c.get? now key).isSome} = (c.live now).keys := by
  ext key
  simp only [LiveStore.keys, get?_eq_live, Option.isSome_map, Set.mem_ofPred_eq, Option.isSome_iff_ne_none]

theorem Sound.counted (sound : c.Sound) (now : Nat) : c.Counted now where
  total := rfl
  parts := by
    have few := c.active_le now
    have rest : (c.stats now).expired = c.size - (c.stats now).active := rfl
    omega
  active := by rw [found_eq_keys_live, ncard_keys_live sound, active_eq]
  dropped := by
    have kept : (c.cleanup now).size = (c.stats now).active := (c.active_eq now).symm
    rw [dropped, kept]
    rfl
  cleaned := by
    have all : ((c.cleanup now).stats now).active = (c.cleanup now).size := by
      refine List.countP_eq_length.mpr fun e member => ?_
      exact (List.mem_filter.mp member).2
    have rest : ((c.cleanup now).stats now).expired =
        (c.cleanup now).size - ((c.cleanup now).stats now).active := rfl
    omega

theorem ne_of_has_eq_false (absent : c.has key = false) : ∀ d ∈ c.entries, d.key ≠ key := by
  intro d member same
  have none : find? c.entries key = none := by simpa [has] using absent
  exact List.find?_eq_none.mp none d member (by simpa using same)

theorem Sets.spares {out : List (CacheAnswer α)} (sets : c.Sets key value expiry out after) (sound : c.Sound) :
    c.Spares key after := by
  obtain ⟨r, makes, gone_of⟩ := sets.gone_of_room
  intro e member other away
  obtain ⟨absent, full, least, alone⟩ := makes.gone sound member (gone_of e member other away)
  exact ⟨ne_of_has_eq_false absent, full, least,
    fun d inside apart gone => alone d inside (gone_of d inside apart gone)⟩

theorem Sets.admits (sets : c.Sets key value expiry [] after) (sound : c.Sound) :
    c.Admits key value expiry after where
  stored := by
    cases sets
    exact List.mem_cons_self
  older := fun _ member => (sets.mem_cases member).imp_left And.left
  gone := sets.spares sound

theorem Sets.refuses (sets : c.Sets key value expiry [.overflow] after) (sound : c.Sound) :
    c.Refuses key after where
  older := sets.subset_of_overflow
  gone := sets.spares sound

end Cache

namespace TimedCache

variable {α : Type} {t u : TimedCache α}

/-- In every run of a cache that starts empty each key has one entry, there are never more entries than there is
room for, and the counts are right. A value is stored exactly if the clock shows its expiry. In either case one
entry goes at most, if the key is new and no place is free: one of those that expire first. -/
theorem counts_of_run {ttl maxEntries : Nat} {actions : List (Action α)} {outs : List (CacheAnswer α)}
    (fresh : t.cache = .empty ttl maxEntries) (run : Run actions t outs u) :
    (u.cache.entries.map (·.key)).Nodup ∧ u.cache.size ≤ max maxEntries 1 ∧ u.cache.Counted u.now ∧
    ∀ key value life out v, Step (.set key value life) u out v →
      (u.now + life.getD ttl < clockEnd ∧ out = [] ∧
        u.cache.Admits key value (u.now + life.getD ttl) v.cache) ∨
      (clockEnd ≤ u.now + life.getD ttl ∧ out = [.overflow] ∧ u.cache.Refuses key v.cache) := by
  obtain ⟨sound, room, lifetime, -⟩ := run.refines_of_empty fresh
  refine ⟨sound.distinct, room ▸ sound.fits, sound.counted u.now, ?_⟩
  intro key value life out v step
  obtain ⟨-, sets⟩ := step.sets sound.room
  rw [lifetime] at sets
  generalize v.cache = after at sets
  rcases sets.answered with ⟨early, rfl⟩ | ⟨late, rfl⟩
  · exact .inl ⟨early, rfl, sets.admits sound⟩
  · exact .inr ⟨late, rfl, sets.refuses sound⟩

/-- A cache without room has room for one entry. What was stored for no time at all has expired, but takes the
place until another key comes. -/
theorem one_place_counts :
    let u := (run [.set "a" 1 (some 0), .get "a"] (.start (.empty 60 0) 10)).2
    u.cache.size ≤ 1 ∧ u.cache.stats u.now = ⟨1, 0, 1⟩ ∧
    {key | (u.cache.get? u.now key).isSome}.ncard = 0 ∧
    u.cache.Admits "b" 2 60 (Action.apply (.set "b" 2 none) u).cache ∧
    u.cache.Refuses "b" (Action.apply (.set "b" 2 (some clockEnd)) u).cache := by
  intro u
  have fresh : (TimedCache.start (.empty 60 0 : Cache Nat) 10).cache = .empty 60 0 := rfl
  have counts := counts_of_run (u := u) fresh (run_isRun _ _)
  obtain ⟨-, few, counted, sets⟩ := counts
  have late : ¬ u.now + clockEnd < clockEnd := by decide
  have admits := (sets "b" 2 none _ _ (.own _ u)).resolve_right fun refused => absurd refused.2.1 (by decide)
  have refuses := (sets "b" 2 (some clockEnd) _ _ (.own _ u)).resolve_left fun stored => late stored.1
  exact ⟨few, by decide, counted.active ▸ rfl, admits.2.2, refuses.2.2⟩

/-- A value that is to be stored until the end of the clock is not stored. -/
theorem set_without_entry :
    ¬ ∀ (ttl maxEntries : Nat) (actions : List (Action Nat)) (outs : List (CacheAnswer Nat)) (t u : TimedCache Nat)
      (key : String) (value : Nat) (life : Option Nat) (out : List (CacheAnswer Nat)),
      Run actions (.unswept (.empty ttl maxEntries)) outs t → Step (.set key value life) t out u →
      u.cache.has key = true := by
  intro stored
  have here := stored clockEnd 1 [] [] (.unswept (.empty clockEnd 1)) _ "a" 1 none _ .nil (.own _ _)
  exact absurd here (by decide)

end TimedCache
end ApiAtlas
