import ApiAtlas.Explorer
import ApiAtlas.Proofs.Cache.Refinement
import ApiAtlas.Proofs.Document.RoundTrip

/-! Loads that share a cache. A load takes up to four steps: it looks its document up, fetches it if it is not
kept, reads it, and keeps what it has read. Between two steps of one load others may take theirs, time may pass,
and the cache may be swept or cleared. Only the last step of a load writes, and it writes one document with what
was discovered in it, both read from bytes for the address of this load. If the clock does not go that far, it
writes nothing, but an entry may be gone to make room. -/
namespace ApiAtlas

/-- A document that was read from bytes for an address and checked, and what it offers. -/
structure Spec.ReadFrom (url : String) (bytes : List Char) (spec : Spec) : Prop where
  read : Document.read bytes url = .ok spec.document
  checked : spec.document.check = .ok spec.document
  discovered : Discovery.ofDocument spec.document = .ok spec.discovery

theorem Document.check_of_read {bytes : List Char} {origin : String} {d : Document}
    (given : read bytes origin = .ok d) : d.check = .ok d := by
  unfold read at given
  split at given
  next e _ =>
    obtain rfl := eq_of_check given
    exact given
  next => contradiction

theorem Spec.readFrom_of_ofBytes {url : String} {bytes : List Char} {spec : Spec}
    (made : ofBytes url bytes = .ok spec) : spec.ReadFrom url bytes := by
  unfold ofBytes at made
  split at made
  next => contradiction
  next d read =>
    split at made
    next => contradiction
    next discovery discovered =>
      obtain rfl := Except.ok.inj made
      exact ⟨read, Document.check_of_read read, discovered⟩

theorem Spec.ofBytes_bounded : ∃ spec, ofBytes "http://h/a" Document.bounded = .ok spec := by
  have ok : (ofBytes "http://h/a" Document.bounded).isOk = true := by decide +kernel
  cases made : ofBytes "http://h/a" Document.bounded with
  | ok spec => exact ⟨spec, rfl⟩
  | error e => simp [made, Except.isOk, Except.toBool] at ok

namespace Explorer

def receive (x : Explorer) (now : Nat) (url : String) :
    Except FetchError (List Char) → Except Failure Spec × Explorer
  | .error e => (.error (.fetch e), x)
  | .ok bytes => x.loadBytes now url bytes

theorem loadBy_run {m : Type → Type} [Monad m] [LawfulMonad m] (fetch : Request → m (Except FetchError (List Char)))
    (x : Explorer) (now : Nat) (url : String) : (loadBy fetch now url).run x =
      match x.cache.get? now url with
      | some spec => pure (.ok spec, x)
      | none => x.receive now url <$> fetch (x.client.documentRequest url) := by
  cases found : x.cache.get? now url with
  | some spec => simp [loadBy, found]
  | none =>
    simp only [loadBy, StateT.run_bind, StateT.run_get, pure_bind, found, StateT.run_monadLift, monadLift_self,
      bind_assoc, map_eq_pure_bind]
    refine bind_congr fun answer => ?_
    cases answer <;> rfl

theorem loadWithin_eq (x : Explorer) (limit : Nat) (net : Network) (now : Nat) (url : String) :
    x.loadWithin limit net now url = match x.cache.get? now url with
      | some spec => (.ok spec, x)
      | none => x.receive now url ({ x.client with timeout := limit }.fetch net url) := by
  rw [loadWithin, through, loadBy_run]
  cases x.cache.get? now url <;> rfl

theorem keep_eq (x : Explorer) (now : Nat) (url : String) (spec : Spec) : x.keep now url spec =
    (if Cache.reaches now x.cache.ttl then .ok spec else .error .clock,
      { x with cache := x.cache.setFor now url spec x.cache.ttl }) := by
  cases early : Cache.reaches now x.cache.ttl <;>
    simp [keep, Cache.setFor, Cache.trySetFor, Cache.putFor, early]

end Explorer

inductive Load.Stage where
  | begun
  /-- Nothing was kept when the document was looked up. -/
  | missed
  | received (bytes : List Char)
  | resolved (spec : Spec)
  | finished (result : Except Failure Spec)

structure Load where
  url : String
  stage : Load.Stage

namespace Load.Stage

def ofLookUp : Option Spec → Stage
  | some spec => finished (.ok spec)
  | none => missed

def ofFetch : Except FetchError (List Char) → Stage
  | .ok bytes => received bytes
  | .error e => finished (.error (.fetch e))

def ofRead : Except Failure Spec → Stage
  | .ok spec => resolved spec
  | .error e => finished (.error e)

end Load.Stage

/-- A cache with a clock and the loads that share it, in the order in which they began. -/
structure Sharing where
  timed : TimedCache Spec
  loads : List Load := []

namespace Sharing

/-- What happens next. Loads are known by their places. -/
inductive Event where
  | begin (url : String)
  /-- A load of bytes that are given. -/
  | give (url : String) (bytes : List Char)
  | lookUp (i : Nat)
  | fetch (i : Nat) (url : String) (answer : Except FetchError (List Char))
  | read (i : Nat)
  | keep (i : Nat)
  /-- What is done to the cache beside the loads. -/
  | upkeep (a : TimedCache.Action Spec)

def Event.load? : Event → Option Nat
  | .lookUp i | .fetch i _ _ | .read i | .keep i => some i
  | .begin _ | .give _ _ | .upkeep _ => none

def enter (s : Sharing) (l : Load) : Sharing := { s with loads := s.loads ++ [l] }

def move (s : Sharing) (i : Nat) (url : String) (stage : Load.Stage) : Sharing :=
  { s with loads := s.loads.set i ⟨url, stage⟩ }

/-- A fetch may answer anything, and any of the entries that expire first may go when one is to be kept. -/
inductive Step : Event → Sharing → Sharing → Prop
  | begin {s url} : Step (.begin url) s (s.enter ⟨url, .begun⟩)
  | give {s url bytes} : Step (.give url bytes) s (s.enter ⟨url, .received bytes⟩)
  | lookUp {s i url} : s.loads[i]? = some ⟨url, .begun⟩ →
    Step (.lookUp i) s (s.move i url (.ofLookUp (s.timed.cache.get? s.timed.now url)))
  | fetch {s i url answer} : s.loads[i]? = some ⟨url, .missed⟩ →
    Step (.fetch i url answer) s (s.move i url (.ofFetch answer))
  | read {s i url bytes} : s.loads[i]? = some ⟨url, .received bytes⟩ →
    Step (.read i) s (s.move i url (.ofRead (Spec.ofBytes url bytes)))
  | keep {s i url spec after} : s.loads[i]? = some ⟨url, .resolved spec⟩ →
    s.timed.cache.Sets url spec (s.timed.now + s.timed.cache.ttl) [] after →
    Step (.keep i) s { s.move i url (.finished (.ok spec)) with timed := { s.timed with cache := after } }
  | overflow {s i url spec after} : s.loads[i]? = some ⟨url, .resolved spec⟩ →
    s.timed.cache.Sets url spec (s.timed.now + s.timed.cache.ttl) [.overflow] after →
    Step (.keep i) s { s.move i url (.finished (.error .clock)) with timed := { s.timed with cache := after } }
  | upkeep {s a out t} : (∀ key spec life, a ≠ .set key spec life) → TimedCache.Step a s.timed out t →
    Step (.upkeep a) s { s with timed := t }

inductive Run : List Event → Sharing → Sharing → Prop
  | nil {s} : Run [] s s
  | cons {a rest s t u} : Step a s t → Run rest t u → Run (a :: rest) s u

/-- Bytes that were given for an address or came with an answer to a fetch of it. -/
def Supplied (events : List Event) (url : String) (bytes : List Char) : Prop :=
  .give url bytes ∈ events ∨ ∃ i, .fetch i url (.ok bytes) ∈ events

/-- One document with what it offers, read from bytes for an address. -/
def Genuine (events : List Event) (url : String) (spec : Spec) : Prop :=
  ∃ bytes, Supplied events url bytes ∧ spec.ReadFrom url bytes

/-- What a load holds was supplied for its address. -/
def Honest (events : List Event) (l : Load) : Prop :=
  match l.stage with
  | .begun | .missed | .finished (.error _) => True
  | .received bytes => Supplied events l.url bytes
  | .resolved spec | .finished (.ok spec) => Genuine events l.url spec

/-- All that is kept or held was supplied for the address it is kept or held for. -/
structure Sound (events : List Event) (s : Sharing) : Prop where
  room : 0 < s.timed.cache.capacity
  kept : ∀ e ∈ s.timed.cache.entries, Genuine events e.key e.value
  held : ∀ l ∈ s.loads, Honest events l

variable {events more : List Event} {s t u : Sharing} {a : Event} {i : Nat} {url : String} {spec : Spec}

theorem Supplied.mono {bytes : List Char} (supplied : Supplied events url bytes) (sub : events ⊆ more) :
    Supplied more url bytes :=
  supplied.imp (fun given => sub given) fun ⟨i, fetched⟩ => ⟨i, sub fetched⟩

theorem Genuine.mono (genuine : Genuine events url spec) (sub : events ⊆ more) : Genuine more url spec := by
  obtain ⟨bytes, supplied, read⟩ := genuine
  exact ⟨bytes, supplied.mono sub, read⟩

theorem Honest.mono {l : Load} (honest : Honest events l) (sub : events ⊆ more) : Honest more l := by
  unfold Honest at honest ⊢
  split at honest
  case h_4 => exact Supplied.mono honest sub
  case h_5 | h_6 => exact Genuine.mono honest sub
  all_goals trivial

theorem Sound.mono (sound : Sound events s) (sub : events ⊆ more) : Sound more s :=
  ⟨sound.room, fun e member => (sound.kept e member).mono sub, fun l member => (sound.held l member).mono sub⟩

/-- A load may move on to what was supplied for its address. -/
theorem Sound.move {stage : Load.Stage} (sound : Sound events s) (honest : Honest events ⟨url, stage⟩) :
    Sound events (s.move i url stage) := by
  refine ⟨sound.room, sound.kept, fun l member => ?_⟩
  rcases List.mem_or_eq_of_mem_set member with old | rfl
  · exact sound.held l old
  · exact honest

theorem Sound.enter {l : Load} (sound : Sound events s) (honest : Honest events l) :
    Sound events (s.enter l) := by
  refine ⟨sound.room, sound.kept, fun k member => ?_⟩
  rcases List.mem_append.mp member with old | new
  · exact sound.held k old
  · exact List.mem_singleton.mp new ▸ honest

theorem Sound.holds {stage : Load.Stage} (sound : Sound events s) (there : s.loads[i]? = some ⟨url, stage⟩) :
    Honest events ⟨url, stage⟩ :=
  sound.held _ (List.mem_of_getElem? there)

/-- What a look-up finds was supplied for the address. -/
theorem Sound.found {now : Nat} (sound : Sound events s) (found : s.timed.cache.get? now url = some spec) :
    Genuine events url spec := by
  obtain ⟨e, member, rfl, rfl, -⟩ := Cache.mem_of_get? found
  exact sound.kept e member

theorem sound_of_fresh {ttl maxEntries : Nat} (fresh : s.timed.cache = .empty ttl maxEntries)
    (idle : s.loads = []) : Sound [] s := by
  refine ⟨?_, ?_, ?_⟩
  · rw [fresh]
    exact (Cache.sound_empty ttl maxEntries).room
  · rw [fresh]
    exact List.forall_mem_nil _
  · rw [idle]
    exact List.forall_mem_nil _

theorem length_move (s : Sharing) (i : Nat) (url : String) (stage : Load.Stage) :
    (s.move i url stage).loads.length = s.loads.length :=
  List.length_set

theorem move_self {l : Load} (there : s.loads[i]? = some l) (url : String) (stage : Load.Stage) :
    (s.move i url stage).loads[i]? = some ⟨url, stage⟩ := by
  have inside : i < s.loads.length := (List.getElem?_eq_some_iff.mp there).1
  simp [move, inside]

theorem Step.lookUp_found (there : s.loads[i]? = some ⟨url, .begun⟩)
    (found : s.timed.cache.get? s.timed.now url = some spec) :
    Step (.lookUp i) s (s.move i url (.finished (.ok spec))) := by
  have lookUp := Step.lookUp there
  rwa [found] at lookUp

theorem Step.read_ok {bytes : List Char} (there : s.loads[i]? = some ⟨url, .received bytes⟩)
    (made : Spec.ofBytes url bytes = .ok spec) : Step (.read i) s (s.move i url (.resolved spec)) := by
  have read := Step.read there
  rwa [made] at read

theorem Step.sound (step : Step a s t) (sound : Sound events s) : Sound (events ++ [a]) t := by
  have past : events ⊆ events ++ [a] := List.subset_append_left events [a]
  have last : a ∈ events ++ [a] := by simp
  have later := sound.mono past
  cases step with
  | begin => exact later.enter trivial
  | give => exact later.enter (.inl last)
  | @lookUp _ _ url =>
    refine later.move ?_
    cases found : s.timed.cache.get? s.timed.now url with
    | none => trivial
    | some spec => exact later.found found
  | @fetch _ i _ answer =>
    refine later.move ?_
    cases answer with
    | ok bytes => exact .inr ⟨i, last⟩
    | error e => trivial
  | @read _ _ url bytes there =>
    refine later.move ?_
    cases made : Spec.ofBytes url bytes with
    | error e => trivial
    | ok spec => exact ⟨bytes, later.holds there, Spec.readFrom_of_ofBytes made⟩
  | @keep _ i url spec after there sets =>
    -- The one step that writes: what was dropped to make room does not matter, only what was added.
    have genuine : Genuine (events ++ [.keep i]) url spec := later.holds there
    have moved : Sound _ (s.move i url (.finished (.ok spec))) := later.move genuine
    refine ⟨sets.capacity_eq ▸ later.room, fun e member => ?_, moved.held⟩
    rcases sets.mem_cases member with ⟨rfl, -⟩ | old
    · exact genuine
    · exact later.kept e old
  | @overflow _ i url spec after there sets =>
    have moved : Sound _ (s.move i url (.finished (.error .clock))) := later.move trivial
    exact ⟨sets.capacity_eq ▸ later.room, fun e member => later.kept e (sets.subset_of_overflow member), moved.held⟩
  | upkeep unset step =>
    obtain ⟨capacity, entries⟩ := step.keeps unset
    exact ⟨capacity ▸ later.room, fun e member => later.kept e (entries member), later.held⟩

theorem Run.sound (run : Run more s t) (sound : Sound events s) : Sound (events ++ more) t := by
  induction run generalizing events with
  | nil => simpa using sound
  | cons step _ ih => simpa using ih (step.sound sound)

/-- What a load has come to stays, whatever happens to others. -/
theorem Step.finished_stays {result : Except Failure Spec} (step : Step a s t)
    (there : s.loads[i]? = some ⟨url, .finished result⟩) : t.loads[i]? = some ⟨url, .finished result⟩ := by
  have inside : i < s.loads.length := (List.getElem?_eq_some_iff.mp there).1
  have moved {j : Nat} {address : String} {before after : Load.Stage}
      (here : s.loads[j]? = some ⟨address, before⟩) (unfinished : ∀ r, before ≠ .finished r) :
      (s.loads.set j ⟨address, after⟩)[i]? = some ⟨url, .finished result⟩ := by
    have apart : j ≠ i := by
      rintro rfl
      rw [here] at there
      exact unfinished result (congrArg Load.stage (Option.some.inj there))
    rw [List.getElem?_set_ne apart]
    exact there
  cases step with
  | begin | give => exact (List.getElem?_append_left inside).trans there
  | lookUp here | fetch here | read here | keep here | overflow here => exact moved here (by simp)
  | upkeep => exact there

theorem Run.finished_stays {result : Except Failure Spec} (run : Run events s t)
    (there : s.loads[i]? = some ⟨url, .finished result⟩) : t.loads[i]? = some ⟨url, .finished result⟩ := by
  induction run with
  | nil => exact there
  | cons step _ ih => exact ih (step.finished_stays there)

/-- A step of a load that does not finish it with a document adds nothing to the cache, and leaves it as it is
unless the clock overflows. -/
theorem Step.leaves_or_finishes (step : Step a s t) (own : a.load? = some i) :
    t.timed.cache.entries ⊆ s.timed.cache.entries ∧
      (t.timed = s.timed ∨ ∃ url, t.loads[i]? = some ⟨url, .finished (.error .clock)⟩) ∨
    ∃ url spec, t.loads[i]? = some ⟨url, .finished (.ok spec)⟩ := by
  cases step with
  | begin | give | upkeep => contradiction
  | lookUp | fetch | read => exact .inl ⟨List.Subset.refl _, .inl rfl⟩
  | keep there =>
    obtain rfl := Option.some.inj own
    exact .inr ⟨_, _, move_self there _ _⟩
  | overflow there sets =>
    obtain rfl := Option.some.inj own
    exact .inl ⟨sets.subset_of_overflow, .inr ⟨_, move_self there _ _⟩⟩

/-- A load that fails adds nothing to the cache, and has left it as it was unless the clock overflowed. -/
theorem Run.leaves_of_failed {e : Failure} (step : Step a s t) (run : Run events t u) (own : a.load? = some i)
    (failed : u.loads[i]? = some ⟨url, .finished (.error e)⟩) :
    t.timed.cache.entries ⊆ s.timed.cache.entries ∧ (e ≠ .clock → t.timed = s.timed) := by
  have comes_to {address : String} {result : Except Failure Spec}
      (finished : t.loads[i]? = some ⟨address, .finished result⟩) : result = .error e := by
    have stays := run.finished_stays finished
    rw [failed] at stays
    exact (Load.Stage.finished.inj (congrArg Load.stage (Option.some.inj stays))).symm
  rcases step.leaves_or_finishes own with ⟨fewer, same | ⟨address, overflowed⟩⟩ | ⟨address, spec, finished⟩
  · exact ⟨fewer, fun _ => same⟩
  · exact ⟨fewer, fun other => absurd (Except.error.inj (comes_to overflowed)).symm other⟩
  · exact absurd (comes_to finished) (by simp)

/-- One more load can go on alone to what an explorer comes to. -/
def Follows (s : Sharing) (l : Load) (outcome : Except Failure Spec × Explorer) : Prop :=
  ∃ events, (∀ a ∈ events, a.load? = some s.loads.length) ∧ Run events (s.enter l)
    { timed := { s.timed with cache := outcome.2.cache }
      loads := s.loads ++ [⟨l.url, .finished outcome.1⟩] }

variable {l : Load} {outcome : Except Failure Spec × Explorer} {x : Explorer}

theorem enter_last : (s.enter l).loads[s.loads.length]? = some l := by
  simp [enter]

theorem move_enter (stage : Load.Stage) :
    (s.enter l).move s.loads.length l.url stage = s.enter ⟨l.url, stage⟩ := by
  simp [move, enter]

theorem Follows.step {stage : Load.Stage} (own : a.load? = some s.loads.length)
    (step : Step a (s.enter l) ((s.enter l).move s.loads.length l.url stage))
    (rest : s.Follows ⟨l.url, stage⟩ outcome) : s.Follows l outcome := by
  obtain ⟨events, alone, run⟩ := rest
  rw [move_enter] at step
  exact ⟨a :: events, List.forall_mem_cons.mpr ⟨own, alone⟩, .cons step run⟩

theorem follows_finished {result : Except Failure Spec} (same : x.cache = s.timed.cache) :
    s.Follows ⟨url, .finished result⟩ (result, x) := by
  refine ⟨[], List.forall_mem_nil _, ?_⟩
  rw [same]
  exact .nil

/-- A load of given bytes that is not interrupted comes to what the explorer comes to. -/
theorem follows_loadBytes (room : 0 < s.timed.cache.capacity) (same : x.cache = s.timed.cache) (url : String)
    (bytes : List Char) : s.Follows ⟨url, .received bytes⟩ (x.loadBytes s.timed.now url bytes) := by
  refine .step rfl (.read enter_last) ?_
  unfold Explorer.loadBytes
  cases made : Spec.ofBytes url bytes with
  | error e => exact follows_finished same
  | ok spec =>
    have sets := Cache.sets_setFor room s.timed.now url spec s.timed.cache.ttl
    have last : (s.enter ⟨url, .resolved spec⟩).loads[s.loads.length]? = some ⟨url, .resolved spec⟩ := enter_last
    dsimp only
    rw [x.keep_eq, same]
    unfold Cache.answersSet at sets
    split at sets
    next early =>
      have keep := Step.keep last sets
      rw [move_enter] at keep
      rw [if_pos early]
      exact ⟨[_], List.forall_mem_singleton.mpr rfl, .cons keep .nil⟩
    next late =>
      have overflow := Step.overflow last sets
      rw [move_enter] at overflow
      rw [if_neg late]
      exact ⟨[_], List.forall_mem_singleton.mpr rfl, .cons overflow .nil⟩

/-- The same goes for a load that may have to fetch. -/
theorem follows_loadWithin (room : 0 < s.timed.cache.capacity) (same : x.cache = s.timed.cache) (limit : Nat)
    (net : Network) (url : String) :
    s.Follows ⟨url, .begun⟩ (x.loadWithin limit net s.timed.now url) := by
  rw [x.loadWithin_eq, same]
  cases found : s.timed.cache.get? s.timed.now url with
  | some spec => exact .step rfl (.lookUp_found enter_last found) (follows_finished same)
  | none =>
    have lookUp := Step.lookUp (s := s.enter ⟨url, .begun⟩) enter_last
    rw [show (s.enter ⟨url, .begun⟩).timed = s.timed from rfl, found] at lookUp
    have onward {outcome : Except Failure Spec × Explorer} (answer : Except FetchError (List Char))
        (rest : s.Follows ⟨url, .ofFetch answer⟩ outcome) : s.Follows ⟨url, .begun⟩ outcome :=
      .step rfl lookUp (.step rfl (.fetch enter_last) rest)
    cases { x.client with timeout := limit }.fetch net url with
    | error e => exact onward (.error e) (follows_finished same)
    | ok bytes => exact onward (.ok bytes) (follows_loadBytes room same url bytes)

/-- Whatever order the steps of the loads and of the upkeep come in, what is kept for an address and what a load
of it returns is one document with what it offers, read from bytes supplied for this address. A load that fails
adds nothing to the cache, and never touches it if it is the fetch, the document or a reference that fails. A load
that is not interrupted does what an explorer does. -/
theorem shared_cache_genuine {ttl maxEntries : Nat} {start : Sharing}
    (fresh : start.timed.cache = .empty ttl maxEntries) (idle : start.loads = []) (run : Run events start s) :
    (∀ e ∈ s.timed.cache.entries, Genuine events e.key e.value) ∧
    (∀ url spec, ⟨url, .finished (.ok spec)⟩ ∈ s.loads → Genuine events url spec) ∧
    (∀ i url e, s.loads[i]? = some ⟨url, .finished (.error e)⟩ →
      ∀ before a after t u, events = before ++ a :: after → Run before start t → Step a t u → Run after u s →
      a.load? = some i → u.timed.cache.entries ⊆ t.timed.cache.entries ∧ (e ≠ .clock → u.timed = t.timed)) ∧
    ∀ x : Explorer, x.cache = s.timed.cache →
      (∀ limit net url, s.Follows ⟨url, .begun⟩ (x.loadWithin limit net s.timed.now url)) ∧
      ∀ url bytes, s.Follows ⟨url, .received bytes⟩ (x.loadBytes s.timed.now url bytes) := by
  have sound : Sound events s := run.sound (sound_of_fresh fresh idle)
  refine ⟨sound.kept, fun url spec member => sound.held _ member, ?_, ?_⟩
  · intro i url e failed before a after t u _ _ step rest own
    exact rest.leaves_of_failed step own failed
  · intro x same
    exact ⟨follows_loadWithin sound.room same, follows_loadBytes sound.room same⟩

/-- Two loads of one address both miss. One fetch fails, but the other load has by then all it needs, and
keeps its document. -/
theorem two_loads_one_fails :
    let url := "http://h/a"
    let start : Sharing := { timed := .unswept (.empty 60 1) }
    let events : List Event := [.begin url, .begin url, .lookUp 0, .lookUp 1,
      .fetch 0 url (.ok Document.bounded), .read 0, .fetch 1 url (.error (.status url 500)), .keep 0,
      .upkeep (.advance 5)]
    ∃ s spec, Run events start s ∧
      s.loads = [⟨url, .finished (.ok spec)⟩, ⟨url, .finished (.error (.fetch (.status url 500)))⟩] ∧
      s.timed.cache.get? s.timed.now url = some spec ∧
      (∀ e ∈ s.timed.cache.entries, Genuine events e.key e.value) ∧ Genuine events url spec := by
  obtain ⟨spec, made⟩ := Spec.ofBytes_bounded
  generalize Document.bounded = text at made ⊢
  intro url start events
  let later : TimedCache Spec := { start.timed with cache := start.timed.cache.setFor 0 url spec 60 }
  let failed : Except Failure Spec := .error (.fetch (.status url 500))
  have room : 0 < start.timed.cache.capacity := Nat.one_pos
  have reads : Step (.read 0) ⟨start.timed, [⟨url, .received text⟩, ⟨url, .missed⟩]⟩
      ⟨start.timed, [⟨url, .resolved spec⟩, ⟨url, .missed⟩]⟩ := .read_ok rfl made
  have run : Run events start ⟨later.advance 5, [⟨url, .finished (.ok spec)⟩, ⟨url, .finished failed⟩]⟩ :=
    .cons .begin (.cons .begin (.cons (.lookUp rfl) (.cons (.lookUp rfl) (.cons (.fetch rfl) (.cons reads
      (.cons (.fetch rfl) (.cons (.keep rfl (Cache.sets_setFor room 0 url spec 60))
        (.cons (.upkeep (by simp) (.own _ _)) .nil))))))))
  obtain ⟨kept, held, -⟩ := shared_cache_genuine rfl rfl run
  exact ⟨_, spec, run, rfl, rfl, kept, held url spec (by simp)⟩

end Sharing
end ApiAtlas
