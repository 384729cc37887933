import ApiAtlas.Cache
import ApiAtlas.Proofs.Cache.Live
import Mathlib.Data.Finset.Card
import Mathlib.Data.List.Nodup

/-! What a cache shows. An entry that has expired stays until a cleanup, takes up room and may be dropped to
make some, but none of this can be seen: an expired entry is always dropped before a live one, so that a
live one goes only if all entries are live. -/
namespace ApiAtlas

namespace Cache

variable {α : Type} {c r : Cache α} {now time ttl expiry : Nat} {key k : String} {value : α}
  {e : CacheEntry α} {entries : List (CacheEntry α)}

/-- Each key has one entry, and there is room for the entries and for one at least. -/
structure Sound (c : Cache α) : Prop where
  distinct : (c.entries.map (·.key)).Nodup
  fits : c.entries.length ≤ c.capacity
  room : 0 < c.capacity

/-- What a cache shows at a time. -/
def live (c : Cache α) (now : Nat) : LiveStore α where
  now
  bound key := ((find? c.entries key).filter (isLive now)).map fun e => (e.value, e.expiry)

theorem sound_empty (ttl maxEntries : Nat) : (empty ttl maxEntries : Cache α).Sound :=
  ⟨List.nodup_nil, Nat.zero_le _, by simp only [empty]; omega⟩

theorem mem_erase : e ∈ erase entries key ↔ e ∈ entries ∧ e.key ≠ key := by
  simp [erase]

theorem keys_sublist_of_sublist {less : List (CacheEntry α)} (sub : less.Sublist entries)
    (distinct : (entries.map (·.key)).Nodup) : (less.map (·.key)).Nodup :=
  distinct.sublist (sub.map _)

theorem Sound.of_sublist {less : List (CacheEntry α)} (sound : c.Sound) (sub : less.Sublist c.entries) :
    Sound { c with entries := less } :=
  ⟨keys_sublist_of_sublist sub sound.distinct, sub.length_le.trans sound.fits, sound.room⟩

theorem Sound.invalidate (sound : c.Sound) (key : String) : (c.invalidate key).Sound :=
  sound.of_sublist List.filter_sublist

theorem Sound.cleanup (sound : c.Sound) (time : Nat) : (c.cleanup time).Sound :=
  sound.of_sublist List.filter_sublist

theorem Sound.clear (sound : c.Sound) : c.clear.Sound := sound.of_sublist (List.nil_sublist _)

theorem find?_eq_some_iff (distinct : (entries.map (·.key)).Nodup) :
    find? entries key = some e ↔ e ∈ entries ∧ e.key = key := by
  induction entries with
  | nil => simp [find?]
  | cons head rest ih =>
    obtain ⟨absent, distinct⟩ := List.nodup_cons.mp distinct
    by_cases same : head.key = key
    · have elsewhere : e ∈ rest → e.key ≠ key := by
        intro member other
        exact absent (List.mem_map.mpr ⟨e, member, other.trans same.symm⟩)
      simp only [find?, List.find?_cons, same, decide_true, Option.some.injEq, List.mem_cons]
      constructor
      · rintro rfl
        exact ⟨.inl rfl, same⟩
      · rintro ⟨rfl | member, named⟩
        · rfl
        · exact absurd named (elsewhere member)
    · have other : e = head → e.key ≠ key := by
        rintro rfl
        exact same
      have step : find? (head :: rest) key = find? rest key := by
        simp [find?, same]
      rw [step, ih distinct, List.mem_cons]
      tauto

/-- A key is bound as long as its entry has not expired. -/
theorem live_eq_some_iff (sound : c.Sound) :
    (c.live now).bound key = some (value, expiry) ↔ ⟨key, value, expiry⟩ ∈ c.entries ∧ now < expiry := by
  simp only [live, Option.map_eq_some_iff, Option.filter_eq_some_iff, Prod.mk.injEq,
    find?_eq_some_iff sound.distinct, isLive, decide_eq_true_eq]
  constructor
  · rintro ⟨⟨k, v, x⟩, ⟨⟨member, rfl⟩, alive⟩, rfl, rfl⟩
    exact ⟨member, alive⟩
  · rintro ⟨member, alive⟩
    exact ⟨⟨key, value, expiry⟩, ⟨⟨member, rfl⟩, alive⟩, rfl, rfl⟩

/-- A cache shows a store if it has live entries for the same bindings. -/
theorem live_eq (sound : c.Sound) {s : LiveStore α} (same : s.now = now)
    (bindings : ∀ key value expiry, ⟨key, value, expiry⟩ ∈ c.entries ∧ now < expiry ↔
      s.bound key = some (value, expiry)) : c.live now = s := by
  refine LiveStore.ext same.symm (funext fun key => Option.ext fun ⟨value, expiry⟩ => ?_)
  rw [live_eq_some_iff sound, bindings]

theorem get?_eq_live (c : Cache α) (now : Nat) (key : String) :
    c.get? now key = ((c.live now).bound key).map (·.1) := by
  simp [get?, live, Function.comp_def]

/-- What is found is in an entry of the key that has not expired. -/
theorem mem_of_get? (found : c.get? now key = some value) :
    ∃ e ∈ c.entries, e.key = key ∧ e.value = value ∧ now < e.expiry := by
  obtain ⟨e, search, same⟩ := Option.map_eq_some_iff.mp found
  obtain ⟨here, alive⟩ := Option.filter_eq_some_iff.mp search
  have named : e.key = key := by simpa using List.find?_some here
  exact ⟨e, List.mem_of_find?_eq_some here, named, same, of_decide_eq_true alive⟩

theorem get?_put (early : now < expiry) : (c.put key value expiry).get? now key = some value := by
  simp [get?, put, find?, isLive, early]

theorem live_invalidate (sound : c.Sound) (now : Nat) (key : String) :
    (c.invalidate key).live now = (c.live now).unbind key := by
  refine live_eq (sound.invalidate key) rfl fun k v x => ?_
  by_cases same : k = key
  · simp [invalidate, mem_erase, LiveStore.unbind, same]
  · simp [invalidate, mem_erase, LiveStore.unbind, same, live_eq_some_iff sound]

/-- A cleanup drops nothing that is live at the time or later. -/
theorem live_cleanup (sound : c.Sound) (earlier : time ≤ now) :
    (c.cleanup time).live now = c.live now := by
  refine live_eq (sound.cleanup time) rfl fun k v x => ?_
  rw [live_eq_some_iff sound]
  simp only [cleanup, List.mem_filter, isLive, decide_eq_true_eq]
  constructor
  · rintro ⟨⟨member, -⟩, alive⟩
    exact ⟨member, alive⟩
  · rintro ⟨member, alive⟩
    exact ⟨⟨member, by omega⟩, alive⟩

theorem live_add (sound : c.Sound) (now span : Nat) : c.live (now + span) = (c.live now).pass span := by
  refine live_eq sound rfl fun k v x => ?_
  simp only [LiveStore.pass, Option.filter_eq_some_iff, live_eq_some_iff sound, decide_eq_true_eq]
  constructor
  · rintro ⟨member, alive⟩
    exact ⟨⟨member, by omega⟩, alive⟩
  · rintro ⟨⟨member, -⟩, alive⟩
    exact ⟨member, alive⟩

/-- Where a key has an entry or there is room for one more, an entry can be stored. -/
theorem Sound.put (sound : c.Sound) (free : c.has key = true ∨ c.entries.length < c.capacity)
    (value : α) (expiry : Nat) : (c.put key value expiry).Sound := by
  refine ⟨?_, ?_, sound.room⟩
  · refine List.nodup_cons.mpr ⟨?_, keys_sublist_of_sublist List.filter_sublist sound.distinct⟩
    rw [List.mem_map]
    rintro ⟨e, member, same⟩
    exact (mem_erase.mp member).2 same
  · have fewer : (erase c.entries key).length < c.capacity := by
      rcases free with present | free
      · obtain ⟨e, found⟩ := Option.isSome_iff_exists.mp present
        obtain ⟨member, named⟩ := (find?_eq_some_iff sound.distinct).mp found
        have dropped : (erase c.entries key).length < c.entries.length :=
          List.length_filter_lt_length_iff_exists.mpr ⟨e, member, by simp [named]⟩
        have fits := sound.fits
        omega
      · have less : (erase c.entries key).length ≤ c.entries.length := List.length_filter_le _ _
        omega
    exact fewer

theorem live_put (sound : c.Sound) (stored : (c.put key value expiry).Sound) (now : Nat) :
    (c.put key value expiry).live now = (c.live now).bindUntil key value expiry := by
  refine live_eq stored rfl fun k v x => ?_
  by_cases same : k = key
  · subst same
    have entry : (⟨k, v, x⟩ : CacheEntry α) ∈ (c.put k value expiry).entries ↔ v = value ∧ x = expiry := by
      simp [Cache.put, mem_erase]
    simp only [entry, LiveStore.bindUntil, Function.update_self]
    by_cases alive : now < expiry
    · simp only [live, alive, if_true, Option.some.injEq, Prod.mk.injEq]
      constructor
      · rintro ⟨⟨rfl, rfl⟩, -⟩
        exact ⟨rfl, rfl⟩
      · rintro ⟨rfl, rfl⟩
        exact ⟨⟨rfl, rfl⟩, alive⟩
    · simp only [live, alive, if_false, reduceCtorEq, iff_false]
      rintro ⟨⟨-, rfl⟩, later⟩
      exact alive later
  · simp [Cache.put, mem_erase, LiveStore.bindUntil, same, live_eq_some_iff sound]

/-- The live keys are those of the entries that have not expired. -/
theorem ncard_keys_live (sound : c.Sound) (now : Nat) :
    (c.live now).keys.ncard = (c.entries.filter (isLive now)).length := by
  have distinct := keys_sublist_of_sublist (List.filter_sublist (p := isLive now)) sound.distinct
  have keys : (c.live now).keys = ↑((c.entries.filter (isLive now)).map (·.key)).toFinset := by
    ext key
    simp only [LiveStore.keys, Set.mem_ofPred_eq, Option.ne_none_iff_exists', Prod.exists,
      live_eq_some_iff sound, List.coe_toFinset, List.mem_map, List.mem_filter, isLive, decide_eq_true_eq]
    constructor
    · rintro ⟨v, x, member, alive⟩
      exact ⟨_, ⟨member, alive⟩, rfl⟩
    · rintro ⟨⟨k, v, x⟩, ⟨member, alive⟩, rfl⟩
      exact ⟨v, x, member, alive⟩
  rw [keys, Set.ncard_coe_finset, List.toFinset_card_of_nodup distinct, List.length_map]

/-- An entry that is not live leaves room for another live one. -/
theorem ncard_keys_lt (sound : c.Sound) (member : e ∈ c.entries) (expired : ¬ isLive now e = true) :
    (c.live now).keys.ncard < c.capacity := by
  have fewer : (c.entries.filter (isLive now)).length < c.entries.length :=
    List.length_filter_lt_length_iff_exists.mpr ⟨e, member, expired⟩
  have fits := sound.fits
  rw [ncard_keys_live sound]
  omega

theorem soonest?_eq_none_iff : soonest? entries = none ↔ entries = [] := by
  cases entries with
  | nil => simp [soonest?]
  | cons head rest =>
    simp only [soonest?, reduceCtorEq, iff_false]
    split
    · split <;> simp
    · simp

/-- The soonest entry expires before all others, or with them. -/
theorem least_of_soonest? (found : soonest? entries = some e) :
    e ∈ entries ∧ ∀ other ∈ entries, e.expiry ≤ other.expiry := by
  induction entries generalizing e with
  | nil => simp [soonest?] at found
  | cons head rest ih =>
    cases later : soonest? rest with
    | none =>
      obtain rfl := soonest?_eq_none_iff.mp later
      simp only [soonest?, Option.some.injEq] at found
      subst found
      simp
    | some first =>
      obtain ⟨member, least⟩ := ih later
      simp only [soonest?, later] at found
      split at found
      next before =>
        cases found
        refine ⟨List.mem_cons_of_mem _ member, List.forall_mem_cons.mpr ⟨?_, least⟩⟩
        omega
      next not_before =>
        cases found
        refine ⟨List.mem_cons_self, List.forall_mem_cons.mpr ⟨Nat.le_refl _, fun other inside => ?_⟩⟩
        have after := least other inside
        omega

/-- What can become of a cache when room is made for a key. If several entries expire first, it is left open
which one of them is dropped. -/
inductive MakesRoom (c : Cache α) (key : String) : Cache α → Prop
  | free : c.has key = true ∨ c.entries.length < c.capacity → MakesRoom c key c
  | drops {first : CacheEntry α} : c.has key = false → c.capacity ≤ c.entries.length → first ∈ c.entries →
    (∀ other ∈ c.entries, first.expiry ≤ other.expiry) → MakesRoom c key (c.invalidate first.key)

theorem makeRoom_of_free (free : c.has key = true ∨ c.entries.length < c.capacity) : c.makeRoom key = c := by
  rcases free with present | free
  · simp [makeRoom, present]
  · simp [makeRoom, show ¬ c.capacity ≤ c.entries.length by omega]

theorem makesRoom_makeRoom (room : 0 < c.capacity) : c.MakesRoom key (c.makeRoom key) := by
  by_cases full : c.has key = false ∧ c.capacity ≤ c.entries.length
  · obtain ⟨absent, full⟩ := full
    cases found : soonest? c.entries with
    | none =>
      rw [soonest?_eq_none_iff.mp found] at full
      exact absurd room (by simpa using full)
    | some e =>
      obtain ⟨member, least⟩ := least_of_soonest? found
      have made : c.makeRoom key = c.invalidate e.key := by
        simp [makeRoom, absent, full, found]
      rw [made]
      exact .drops absent full member least
  · have free : c.has key = true ∨ c.entries.length < c.capacity := by
      cases present : c.has key with
      | true => exact .inl rfl
      | false => exact .inr (by simpa [present] using full)
    rw [makeRoom_of_free free]
    exact .free free

namespace MakesRoom

theorem sublist (makes : c.MakesRoom key r) : r.entries.Sublist c.entries := by
  cases makes with
  | free => exact List.Sublist.refl _
  | drops => exact List.filter_sublist

theorem capacity_eq (makes : c.MakesRoom key r) : r.capacity = c.capacity := by cases makes <;> rfl

theorem ttl_eq (makes : c.MakesRoom key r) : r.ttl = c.ttl := by cases makes <;> rfl

theorem sound (makes : c.MakesRoom key r) (sound : c.Sound) : r.Sound := by
  cases makes with
  | free => exact sound
  | drops => exact sound.invalidate _

end MakesRoom

/-- There is a place for a key if it and those of all entries are among few enough. -/
theorem Sound.free_of_few (sound : c.Sound) {keys : Finset String} (inside : ∀ e ∈ c.entries, e.key ∈ keys)
    (here : key ∈ keys) (few : keys.card ≤ c.capacity) : c.has key = true ∨ c.entries.length < c.capacity := by
  refine or_iff_not_imp_left.mpr fun absent => ?_
  have others : (c.entries.map (·.key)).toFinset ⊆ keys.erase key := by
    intro k named
    obtain ⟨e, member, rfl⟩ := List.mem_map.mp (List.mem_toFinset.mp named)
    refine Finset.mem_erase.mpr ⟨?_, inside e member⟩
    rintro rfl
    exact absent (Option.isSome_iff_exists.mpr ⟨e, (find?_eq_some_iff sound.distinct).mpr ⟨member, rfl⟩⟩)
  calc c.entries.length
      = (c.entries.map (·.key)).toFinset.card := by
        rw [List.toFinset_card_of_nodup sound.distinct, List.length_map]
    _ ≤ (keys.erase key).card := Finset.card_le_card others
    _ < keys.card := Finset.card_erase_lt_of_mem here
    _ ≤ c.capacity := few

/-- A dropped entry is live only if all entries are. -/
theorem live_of_least (least : ∀ other ∈ entries, e.expiry ≤ other.expiry)
    (alive : isLive now e = true) : ∀ other ∈ entries, isLive now other = true := by
  intro other member
  have later := least other member
  simp only [isLive, decide_eq_true_eq] at alive ⊢
  omega

theorem Sound.length_invalidate (sound : c.Sound) (member : e ∈ c.entries) :
    (c.invalidate e.key).entries.length < c.capacity := by
  have fewer : (erase c.entries e.key).length < c.entries.length :=
    List.length_filter_lt_length_iff_exists.mpr ⟨e, member, by simp⟩
  exact Nat.lt_of_lt_of_le fewer sound.fits

namespace MakesRoom

/-- There is room in the end. -/
theorem free_place (makes : c.MakesRoom key r) (sound : c.Sound) :
    r.has key = true ∨ r.entries.length < r.capacity := by
  cases makes with
  | free free => exact free
  | drops _ _ member => exact .inr (sound.length_invalidate member)

/-- An entry goes only if the key is new and no place is free. It expires first then, and no other one goes. -/
theorem gone (makes : c.MakesRoom key r) (sound : c.Sound) (member : e ∈ c.entries) (gone : e ∉ r.entries) :
    c.has key = false ∧ c.entries.length = c.capacity ∧ (∀ d ∈ c.entries, e.expiry ≤ d.expiry) ∧
    ∀ d ∈ c.entries, d ∉ r.entries → d = e := by
  cases makes with
  | free => exact absurd member gone
  | @drops first absent full inside least =>
    have eq_first {d : CacheEntry α} (member : d ∈ c.entries) (gone : d ∉ (c.invalidate first.key).entries) :
        d = first := by
      by_cases same : d.key = first.key
      · have one := (find?_eq_some_iff sound.distinct).mpr ⟨member, same⟩
        have two := (find?_eq_some_iff sound.distinct).mpr ⟨inside, rfl⟩
        exact Option.some.inj (one.symm.trans two)
      · exact absurd (mem_erase.mpr ⟨member, same⟩) gone
    obtain rfl := eq_first member gone
    exact ⟨absent, Nat.le_antisymm sound.fits full, least, fun d inside away => eq_first inside away⟩

/-- To make room is to do so among the live entries, unless an entry that is not live goes. -/
theorem live (makes : c.MakesRoom key r) (sound : c.Sound) (now : Nat) :
    (c.live now).MakesRoom c.capacity key (r.live now) := by
  cases makes with
  | free free =>
    refine .free ?_
    by_cases bound : (c.live now).bound key = none
    · -- An entry of the key that is not live takes up room of its own.
      refine .inr ?_
      rcases free with present | free
      · obtain ⟨e, found⟩ := Option.isSome_iff_exists.mp present
        obtain ⟨member, rfl⟩ := (find?_eq_some_iff sound.distinct).mp found
        refine ncard_keys_lt sound member fun alive => ?_
        have here := (live_eq_some_iff sound).mpr ⟨member, of_decide_eq_true alive⟩
        simp [bound] at here
      · have fewer := List.length_filter_le (isLive now) c.entries
        rw [ncard_keys_live sound]
        omega
    · exact .inl bound
  | @drops e absent full member least =>
    rw [live_invalidate sound]
    have gone : find? c.entries key = none := by simpa [has] using absent
    have unbound : (c.live now).bound key = none := by simp [Cache.live, gone]
    by_cases alive : isLive now e = true
    · refine .evicts unbound ?_ ⟨e.value, e.expiry, ?_, ?_⟩
      · rw [ncard_keys_live sound, List.filter_eq_self.mpr (live_of_least least alive)]
        exact full
      · exact (live_eq_some_iff sound).mpr ⟨member, of_decide_eq_true alive⟩
      · intro other w x found
        exact least _ ((live_eq_some_iff sound).mp found).1
    · have same : (c.live now).unbind e.key = c.live now := by
        refine LiveStore.ext rfl (Function.update_eq_self_iff.mpr ?_)
        symm
        by_contra bound
        obtain ⟨⟨w, x⟩, found⟩ := Option.ne_none_iff_exists'.mp bound
        obtain ⟨inside, later⟩ := (live_eq_some_iff sound).mp found
        have one := (find?_eq_some_iff sound.distinct).mpr ⟨member, rfl⟩
        have other := (find?_eq_some_iff sound.distinct).mpr ⟨inside, rfl⟩
        have ends : e.expiry = x := congrArg CacheEntry.expiry (Option.some.inj (one.symm.trans other))
        exact alive (decide_eq_true (ends ▸ later))
      rw [same]
      exact .free (.inr (ncard_keys_lt sound member alive))

end MakesRoom

inductive Sets (c : Cache α) (key : String) (value : α) (expiry : Nat) : List (CacheAnswer α) → Cache α → Prop
  | stores {roomy : Cache α} : c.MakesRoom key roomy → expiry < clockEnd →
    Sets c key value expiry [] (roomy.put key value expiry)
  | overflows {roomy : Cache α} : c.MakesRoom key roomy → clockEnd ≤ expiry →
    Sets c key value expiry [.overflow] roomy

def answersSet (now ttl : Nat) : List (CacheAnswer α) := if reaches now ttl then [] else [.overflow]

theorem sets_setFor (room : 0 < c.capacity) (now : Nat) (key : String) (value : α) (ttl : Nat) :
    c.Sets key value (now + ttl) (answersSet now ttl) (c.setFor now key value ttl) := by
  have makes : c.MakesRoom key (c.makeRoom key) := makesRoom_makeRoom room
  unfold answersSet setFor trySetFor putFor
  split
  next early => exact .stores makes (of_decide_eq_true early)
  next late => exact .overflows makes (Nat.le_of_not_lt fun early => late (decide_eq_true early))

theorem ttl_setFor (c : Cache α) (now : Nat) (key : String) (value : α) (ttl : Nat) :
    (c.setFor now key value ttl).ttl = c.ttl := by
  have room : (c.makeRoom key).ttl = c.ttl := by
    unfold makeRoom
    split
    · split <;> rfl
    · rfl
  unfold setFor trySetFor putFor
  split <;> exact room

namespace Sets

variable {out : List (CacheAnswer α)} {after : Cache α}

/-- Nothing is stored but the value that is given. -/
theorem mem_cases (sets : c.Sets key value expiry out after) (member : e ∈ after.entries) :
    e = ⟨key, value, expiry⟩ ∧ expiry < clockEnd ∨ e ∈ c.entries := by
  cases sets with
  | stores makes early =>
    rcases List.mem_cons.mp member with rfl | kept
    · exact .inl ⟨rfl, early⟩
    · exact .inr (makes.sublist.subset (mem_erase.mp kept).1)
  | overflows makes => exact .inr (makes.sublist.subset member)

theorem capacity_eq (sets : c.Sets key value expiry out after) : after.capacity = c.capacity := by
  cases sets with
  | stores makes | overflows makes => exact makes.capacity_eq

theorem ttl_eq (sets : c.Sets key value expiry out after) : after.ttl = c.ttl := by
  cases sets with
  | stores makes | overflows makes => exact makes.ttl_eq

theorem sound (sets : c.Sets key value expiry out after) (sound : c.Sound) : after.Sound := by
  cases sets with
  | stores makes => exact (makes.sound sound).put (makes.free_place sound) value expiry
  | overflows makes => exact makes.sound sound

/-- The answer says whether the clock shows the expiry. -/
theorem answered (sets : c.Sets key value expiry out after) :
    expiry < clockEnd ∧ out = [] ∨ clockEnd ≤ expiry ∧ out = [.overflow] := by
  cases sets with
  | stores _ early => exact .inl ⟨early, rfl⟩
  | overflows _ late => exact .inr ⟨late, rfl⟩

theorem subset_of_overflow (sets : c.Sets key value expiry [.overflow] after) : after.entries ⊆ c.entries := by
  cases sets with
  | overflows makes => exact makes.sublist.subset

/-- What goes beside an earlier entry of the key makes room. -/
theorem gone_of_room (sets : c.Sets key value expiry out after) :
    ∃ r, c.MakesRoom key r ∧ ∀ e ∈ c.entries, e.key ≠ key → e ∉ after.entries → e ∉ r.entries := by
  cases sets with
  | @stores roomy makes =>
    refine ⟨roomy, makes, fun e _ other gone kept => gone ?_⟩
    exact List.mem_cons_of_mem _ (mem_erase.mpr ⟨kept, other⟩)
  | overflows makes => exact ⟨after, makes, fun _ _ _ gone => gone⟩

/-- A live entry is dropped only if no entry has expired. -/
theorem all_live (sets : c.Sets key value expiry out after) (sound : c.Sound)
    (member : e ∈ c.entries) (alive : isLive now e = true) (other : e.key ≠ key)
    (gone : e ∉ after.entries) : ∀ d ∈ c.entries, isLive now d = true := by
  obtain ⟨r, makes, gone_of⟩ := sets.gone_of_room
  obtain ⟨-, -, least, -⟩ := makes.gone sound member (gone_of e member other gone)
  exact live_of_least least alive

/-- To store a value is to bind it among the live entries. -/
theorem live_step (sets : c.Sets key value (now + ttl) out after) (sound : c.Sound) :
    LiveStore.Step c.capacity (.set key value ttl) (c.live now) out (after.live now) := by
  have stored := sets.sound sound
  cases sets with
  | stores makes early =>
    rw [live_put (makes.sound sound) stored]
    exact .binds (makes.live sound now) early
  | overflows makes late => exact .overflows (makes.live sound now) late

end Sets

end Cache

end ApiAtlas
