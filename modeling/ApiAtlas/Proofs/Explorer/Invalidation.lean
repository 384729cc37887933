import ApiAtlas.Proofs.Explorer.Sharing

/-! Documents that are forgotten while loads are under way. A load that begins afterwards finds nothing that was
kept before. But a load that has its bytes by then goes on to keep what it reads from them, and a later load cannot
tell that from what was fetched since. -/
namespace ApiAtlas
namespace Sharing

/-- A load has all it needs for a document of an address, and has not kept it yet. -/
inductive Holds (s : Sharing) (i : Nat) (url : String) (spec : Spec) : Prop
  | unread {bytes} : s.loads[i]? = some ⟨url, .received bytes⟩ → Spec.ofBytes url bytes = .ok spec →
    Holds s i url spec
  | unkept : s.loads[i]? = some ⟨url, .resolved spec⟩ → Holds s i url spec

/-- What is kept now is found for a while. -/
def Retains (s : Sharing) : Prop :=
  0 < s.timed.cache.ttl ∧ Cache.reaches s.timed.now s.timed.cache.ttl = true

/-- A document that a load held at the start, and has kept since. -/
def Carried (start : Sharing) (events : List Event) (url : String) (spec : Spec) : Prop :=
  start.Retains ∧ ∃ i, start.Holds i url spec ∧ .keep i ∈ events

/-- A load of an address that began since the start has returned a document. -/
def Returns (start s : Sharing) (url : String) (spec : Spec) : Prop :=
  ∃ i, start.loads.length ≤ i ∧ s.loads[i]? = some ⟨url, .finished (.ok spec)⟩

/-- What a load of an address has come to was supplied since the start or held at the start. Loads that were
finished by then do not matter. -/
def Recent (start : Sharing) (events : List Event) (url : String) (i : Nat) : Load.Stage → Prop
  | .begun | .missed | .finished (.error _) => True
  | .received bytes => ∀ spec, Spec.ofBytes url bytes = .ok spec →
    Genuine events url spec ∨ start.Holds i url spec
  | .resolved spec => Genuine events url spec ∨ start.Holds i url spec
  | .finished (.ok spec) => start.loads.length ≤ i → Genuine events url spec ∨ Carried start events url spec

structure Since (start : Sharing) (url : String) (events : List Event) (s : Sharing) : Prop where
  clock : start.timed.now ≤ s.timed.now
  ttl : s.timed.cache.ttl = start.timed.cache.ttl
  kept : ∀ e ∈ s.timed.cache.entries, e.key = url → s.timed.now < e.expiry →
    Genuine events url e.value ∨ Carried start events url e.value
  loads : ∀ i stage, s.loads[i]? = some ⟨url, stage⟩ → Recent start events url i stage

variable {start s t u : Sharing} {events more before rest : List Event} {a : Event} {i : Nat} {url address : String}
  {spec : Spec} {stage : Load.Stage}

theorem Holds.lt_length (holds : s.Holds i url spec) : i < s.loads.length := by
  cases holds with
  | unread there | unkept there => exact (List.getElem?_eq_some_iff.mp there).1

/-- As the clock goes on, it comes closer to its end. -/
theorem Since.retains (since : Since start url events s) (long : 0 < s.timed.cache.ttl)
    (early : s.timed.now + s.timed.cache.ttl < clockEnd) : start.Retains := by
  have clock := since.clock
  have ttl := since.ttl
  simp only [Retains, Cache.reaches, decide_eq_true_eq]
  omega

theorem Carried.mono (carried : Carried start events url spec) (sub : events ⊆ more) :
    Carried start more url spec := by
  obtain ⟨retains, i, held, kept⟩ := carried
  exact ⟨retains, i, held, sub kept⟩

theorem Recent.mono (recent : Recent start events url i stage) (sub : events ⊆ more) :
    Recent start more url i stage := by
  unfold Recent at recent ⊢
  split at recent
  case h_4 => exact fun spec made => (recent spec made).imp_left (.mono · sub)
  case h_5 => exact recent.imp_left (.mono · sub)
  case h_6 => exact fun late => (recent late).imp (.mono · sub) (.mono · sub)
  all_goals trivial

theorem Since.mono (since : Since start url events s) (sub : events ⊆ more) : Since start url more s :=
  ⟨since.clock, since.ttl,
    fun e member named live => (since.kept e member named live).imp (.mono · sub) (.mono · sub),
    fun i stage there => (since.loads i stage there).mono sub⟩

theorem Since.move (since : Since start url events s) (recent : address = url → Recent start events url i stage) :
    Since start url events (s.move i address stage) := by
  refine ⟨since.clock, since.ttl, since.kept, fun j other there => ?_⟩
  rw [Sharing.move, List.getElem?_set] at there
  split at there
  next same =>
    split at there
    · obtain ⟨rfl, rfl⟩ := Load.mk.inj (Option.some.inj there)
      exact same ▸ recent rfl
    · contradiction
  next => exact since.loads j other there

theorem Since.enter (since : Since start url events s)
    (recent : address = url → Recent start events url s.loads.length stage) :
    Since start url events (s.enter ⟨address, stage⟩) := by
  refine ⟨since.clock, since.ttl, since.kept, fun j other there => ?_⟩
  rcases Nat.lt_trichotomy j s.loads.length with old | rfl | beyond
  · exact since.loads j other ((List.getElem?_append_left old).symm.trans there)
  · obtain ⟨rfl, rfl⟩ := Load.mk.inj (Option.some.inj (enter_last.symm.trans there))
    exact recent rfl
  · have none : (s.enter ⟨address, stage⟩).loads[j]? = none := List.getElem?_eq_none (by simp [Sharing.enter]; omega)
    rw [none] at there
    contradiction

theorem Step.since (step : Step a s t) (since : Since start url events s) : Since start url (events ++ [a]) t := by
  have last : a ∈ events ++ [a] := by simp
  have later := since.mono (List.subset_append_left events [a])
  cases step with
  | begin => exact later.enter fun _ => trivial
  | @give _ address bytes =>
    refine later.enter ?_
    rintro rfl spec made
    exact .inl ⟨bytes, .inl last, Spec.readFrom_of_ofBytes made⟩
  | @lookUp _ _ address =>
    refine later.move ?_
    rintro rfl
    cases found : s.timed.cache.get? s.timed.now address with
    | none => trivial
    | some spec =>
      obtain ⟨e, member, named, rfl, live⟩ := Cache.mem_of_get? found
      exact fun _ => later.kept e member named live
  | @fetch _ i address answer =>
    refine later.move ?_
    rintro rfl
    cases answer with
    | ok bytes => exact fun spec made => .inl ⟨bytes, .inr ⟨i, last⟩, Spec.readFrom_of_ofBytes made⟩
    | error e => trivial
  | @read _ i address bytes there =>
    refine later.move ?_
    rintro rfl
    cases made : Spec.ofBytes address bytes with
    | error e => trivial
    | ok spec => exact later.loads i _ there spec made
  | @keep _ i address spec after there sets =>
    -- A load that held its document at the start may write it only here, and only while the clock has room.
    have moved : Since start url (events ++ [.keep i]) (s.move i address (.finished (.ok spec))) := by
      refine later.move ?_
      rintro rfl late
      refine .inl ((later.loads i _ there).resolve_right fun held => ?_)
      exact absurd held.lt_length (Nat.not_lt.mpr late)
    refine ⟨since.clock, sets.ttl_eq.trans since.ttl, fun e member named live => ?_, moved.loads⟩
    rcases sets.mem_cases member with ⟨rfl, early⟩ | old
    · obtain rfl : address = url := named
      exact (later.loads i _ there).imp_right fun held =>
        ⟨since.retains (Nat.pos_of_lt_add_right live) early, i, held, last⟩
    · exact later.kept e old named live
  | @overflow _ i address spec after there sets =>
    have moved : Since start url (events ++ [.keep i]) (s.move i address (.finished (.error .clock))) :=
      later.move fun _ => trivial
    exact ⟨since.clock, sets.ttl_eq.trans since.ttl,
      fun e member => later.kept e (sets.subset_of_overflow member), moved.loads⟩
  | upkeep unset step =>
    obtain ⟨clock, ttl⟩ := step.ages
    have entries := (step.keeps unset).2
    exact ⟨since.clock.trans clock, ttl.trans since.ttl,
      fun e member named live => later.kept e (entries member) named (clock.trans_lt live), later.loads⟩

theorem Run.since (run : Run more s t) (since : Since start url events s) :
    Since start url (events ++ more) t := by
  induction run generalizing events with
  | nil => simpa using since
  | cons step _ ih => simpa using ih (step.since since)

/-- Right after a document is forgotten, nothing is kept for its address. -/
theorem Step.since_invalidate (step : Step (.upkeep (.invalidate url)) s t) : Since t url [] t := by
  refine ⟨Nat.le_refl _, rfl, fun e member named => ?_, fun i stage there => ?_⟩
  · cases step with
    | upkeep _ step =>
      cases step
      exact absurd named (Cache.mem_erase.mp member).2
  · have inside := (List.getElem?_eq_some_iff.mp there).1
    unfold Recent
    split
    case h_4 => exact fun spec made => .inr (.unread there made)
    case h_5 => exact .inr (.unkept there)
    case h_6 => exact fun late => absurd inside (Nat.not_lt.mpr late)
    all_goals trivial

/-- A document that is kept at last is what the next load finds. -/
theorem returned_of_unkept (there : s.loads[i]? = some ⟨url, .resolved spec⟩) (retains : s.Retains)
    (room : 0 < s.timed.cache.capacity) :
    ∃ u, Run [.keep i, .begin url, .lookUp s.loads.length] s u ∧
      u.loads[s.loads.length]? = some ⟨url, .finished (.ok spec)⟩ := by
  have keep := Step.keep there (.stores (Cache.makesRoom_makeRoom room) (of_decide_eq_true retains.2))
  have early : s.timed.now < s.timed.now + s.timed.cache.ttl := Nat.lt_add_of_pos_right retains.1
  rw [← s.length_move i url (.finished (.ok spec))]
  refine ⟨_, .cons keep (.cons .begin (.cons (.lookUp enter_last) .nil)), ?_⟩
  simp [Sharing.enter, Sharing.move, Cache.get?_put early, Load.Stage.ofLookUp]

/-- What a load holds may be what the next load returns, without anything supplied in between. -/
theorem Holds.returned (holds : s.Holds i url spec) (retains : s.Retains) (room : 0 < s.timed.cache.capacity) :
    ∃ events u, Run events s u ∧ (∀ bytes, ¬ Supplied events url bytes) ∧ s.Returns u url spec := by
  cases holds with
  | unkept there =>
    obtain ⟨u, run, returned⟩ := returned_of_unkept there retains room
    exact ⟨_, u, run, by simp [Supplied], _, Nat.le_refl _, returned⟩
  | unread there made =>
    obtain ⟨u, run, returned⟩ := returned_of_unkept (move_self there url (.resolved spec)) retains room
    rw [length_move] at run returned
    exact ⟨_, u, .cons (.read_ok there made) run, by simp [Supplied], _, Nat.le_refl _, returned⟩

/-- A load that begins after a document was forgotten returns one that was supplied since, or one that an earlier
load held then and has kept since. It is always the former exactly if no load held a document of the address, or
nothing can be kept for any time. -/
theorem fresh_after_invalidate_iff {ttl maxEntries : Nat} (fresh : start.timed.cache = .empty ttl maxEntries)
    (idle : start.loads = []) (run : Run before start s) (step : Step (.upkeep (.invalidate url)) s t) :
    (∀ rest u spec, Run rest t u → t.Returns u url spec → Genuine rest url spec ∨ Carried t rest url spec) ∧
    ((∀ rest u spec, Run rest t u → t.Returns u url spec → Genuine rest url spec) ↔
      ∀ i spec, t.Holds i url spec → ¬ t.Retains) := by
  have origin (rest : List Event) (u : Sharing) (spec : Spec) (run : Run rest t u)
      (returned : t.Returns u url spec) : Genuine rest url spec ∨ Carried t rest url spec := by
    obtain ⟨i, late, finished⟩ := returned
    exact (run.since step.since_invalidate).loads i _ finished late
  have room : 0 < t.timed.cache.capacity := (step.sound (run.sound (sound_of_fresh fresh idle))).room
  refine ⟨origin, fun genuine i spec holds retains => ?_, fun none rest u spec run returned => ?_⟩
  · obtain ⟨rest, u, run, unsupplied, returned⟩ := holds.returned retains room
    obtain ⟨bytes, supplied, -⟩ := genuine rest u spec run returned
    exact unsupplied bytes supplied
  · refine (origin rest u spec run returned).resolve_right ?_
    rintro ⟨retains, i, holds, -⟩
    exact none i spec holds retains

/-- One load has missed, another one has kept its document. When that is forgotten, nobody holds it: whatever is
returned to later loads was supplied after that. -/
theorem fresh_after_kept_is_forgotten :
    let url := "http://h/a"
    let start : Sharing := { timed := .unswept (.empty 60 1) }
    let before : List Event := [.begin url, .lookUp 0, .give url Document.bounded, .read 1, .keep 1]
    ∃ s t spec, Run before start s ∧ s.timed.cache.get? 0 url = some spec ∧
      Step (.upkeep (.invalidate url)) s t ∧ (∀ i spec, t.Holds i url spec → ¬ t.Retains) ∧
      ∀ rest u spec, Run rest t u → t.Returns u url spec → Genuine rest url spec := by
  obtain ⟨spec, made⟩ := Spec.ofBytes_bounded
  generalize Document.bounded = text at made ⊢
  intro url start before
  let kept : TimedCache Spec := { start.timed with cache := start.timed.cache.set 0 url spec }
  let loads : List Load := [⟨url, .missed⟩, ⟨url, .finished (.ok spec)⟩]
  have room : 0 < start.timed.cache.capacity := Nat.one_pos
  have reads : Step (.read 1) ⟨start.timed, [⟨url, .missed⟩, ⟨url, .received text⟩]⟩
      ⟨start.timed, [⟨url, .missed⟩, ⟨url, .resolved spec⟩]⟩ := .read_ok rfl made
  have run : Run before start ⟨kept, loads⟩ :=
    .cons .begin (.cons (.lookUp rfl) (.cons .give (.cons reads
      (.cons (.keep rfl (Cache.sets_setFor room 0 url spec 60)) .nil))))
  let gone : Sharing := ⟨{ kept with cache := kept.cache.invalidate url }, loads⟩
  have forgotten : Step (.upkeep (.invalidate url)) ⟨kept, loads⟩ gone := .upkeep (by simp) (.own _ _)
  have none : ∀ i spec, gone.Holds i url spec → ¬ gone.Retains := by
    intro i spec holds
    cases holds with
    | unread there | unkept there => rcases i with _ | _ | i <;> simp [gone, loads] at there
  exact ⟨_, gone, spec, run, Cache.get?_put (by decide), forgotten, none,
    (fresh_after_invalidate_iff rfl rfl run forgotten).2.mpr none⟩

/-- A load that has fetched its bytes keeps their document after the address was forgotten, and the next load
returns it. Nothing was supplied in between. -/
theorem slow_load_undoes_invalidate :
    let url := "http://h/a"
    let start : Sharing := { timed := .unswept (.empty 60 1) }
    let before : List Event := [.begin url, .lookUp 0, .fetch 0 url (.ok Document.bounded)]
    let rest : List Event := [.read 0, .keep 0, .begin url, .lookUp 1]
    ∃ s t u spec, Run before start s ∧ Step (.upkeep (.invalidate url)) s t ∧ Run rest t u ∧
      t.Returns u url spec ∧ ¬ Genuine rest url spec := by
  obtain ⟨spec, made⟩ := Spec.ofBytes_bounded
  generalize Document.bounded = text at made ⊢
  intro url start before rest
  let slow : Sharing := ⟨start.timed, [⟨url, .received text⟩]⟩
  let later : TimedCache Spec := { start.timed with cache := start.timed.cache.set 0 url spec }
  have room : 0 < start.timed.cache.capacity := Nat.one_pos
  have forgotten : Step (.upkeep (.invalidate url)) slow slow := .upkeep (by simp) (.own _ _)
  have reads : Step (.read 0) slow ⟨start.timed, [⟨url, .resolved spec⟩]⟩ := .read_ok rfl made
  have found : later.cache.get? later.now url = some spec := Cache.get?_put (show 0 < 60 by decide)
  have finds : Step (.lookUp 1) ⟨later, [⟨url, .finished (.ok spec)⟩, ⟨url, .begun⟩]⟩
      ⟨later, [⟨url, .finished (.ok spec)⟩, ⟨url, .finished (.ok spec)⟩]⟩ := .lookUp_found rfl found
  refine ⟨slow, slow, _, spec, .cons .begin (.cons (.lookUp rfl) (.cons (.fetch rfl) .nil)), forgotten,
    .cons reads (.cons (.keep rfl (Cache.sets_setFor room 0 url spec 60)) (.cons .begin (.cons finds .nil))),
    ⟨1, Nat.le_refl 1, rfl⟩, ?_⟩
  rintro ⟨bytes, supplied, -⟩
  simp [Supplied, rest] at supplied

end Sharing
end ApiAtlas
