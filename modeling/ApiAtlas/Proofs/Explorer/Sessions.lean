import ApiAtlas.Proofs.Cache.Contents
import ApiAtlas.Proofs.Explorer.Sharing

/-! Sessions of one explorer. Each question loads its document first, so that whether the network is asked does
not depend on the question. As long as no more addresses come up than fit into the cache, no entry has to make
room for another one: a document that was fetched stays until it expires, and all questions until then are
answered from it. -/
namespace ApiAtlas

inductive Question where
  | load
  | discover
  | find (method path : String)
  | validate (name : String) (leniency : Option Leniency) (params : Table Json) (body : Option Json)
  | validateResponse (name status : String) (body : Option Json)

inductive Answer where
  | spec (spec : Spec)
  | overview (overview : Overview)
  | endpoint (endpoint : Endpoint)
  | report (report : Report) (params : Table Json)
  | response (report : FieldReport)

namespace Question

def ask (q : Question) (x : Explorer) (net : Network) (now : Nat) (url : String) :
    Except Failure Answer × Explorer :=
  match q with
  | .load => (x.load net now url).map (·.map .spec) id
  | .discover => (x.discover net now url).map (·.map .overview) id
  | .find method path => (x.find net now url method path).map (·.map .endpoint) id
  | .validate name leniency params body =>
    (x.validate net now url name leniency params body).map
      (·.map fun (report, filled) => .report report filled) id
  | .validateResponse name status body =>
    (x.validateResponse net now url name status body).map (·.map .response) id

def askBy {m : Type → Type} [Monad m] (q : Question) (fetch : Request → m (Except FetchError (List Char)))
    (now : Nat) (url : String) : StateT Explorer m (Except Failure Answer) :=
  match q with
  | .load => (·.map .spec) <$> Explorer.loadBy fetch now url
  | .discover => (·.map .overview) <$> Explorer.discoverBy fetch now url
  | .find method path => (·.map .endpoint) <$> Explorer.findBy fetch now url method path
  | .validate name leniency params body =>
    (·.map fun (report, filled) => .report report filled) <$>
      Explorer.validateBy fetch now url name leniency params body
  | .validateResponse name status body =>
    (·.map .response) <$> Explorer.validateResponseBy fetch now url name status body

/-- Asks an explorer and takes down what it sends. -/
def askNoting (q : Question) (x : Explorer) (net : Network) (now : Nat) (url : String) :
    (Except Failure Answer × Explorer) × List Request :=
  ((q.askBy (x.client.sendNoting net) now url).run x).run []

/-- The requests that an explorer sends to answer a question. -/
def sent (q : Question) (x : Explorer) (net : Network) (now : Nat) (url : String) : List Request :=
  (q.askNoting x net now url).2

def answer (q : Question) (leniency : Leniency) (spec : Spec) : Except Failure Answer :=
  match q with
  | .load => .ok (.spec spec)
  | .discover => .ok (.overview spec.discovery.overview)
  | .find method path => ((spec.discovery.find method path).mapError .lookup).map .endpoint
  | .validate name own params body =>
    ((spec.discovery.validate name (own.getD leniency) params body).mapError .lookup).map
      fun (report, filled) => .report report filled
  | .validateResponse name status body =>
    ((spec.discovery.validateResponse name status body).mapError .lookup).map .response

end Question

namespace Explorer

variable {x : Explorer} {q : Question} {net : Network} {now : Nat} {url : String} {spec : Spec}

section By

variable {m : Type → Type} [Monad m] [LawfulMonad m]

theorem askBy_run {α : Type} (fetch : Request → m (Except FetchError (List Char)))
    (question : Discovery → Except LookupError α) : (askBy fetch now url question).run x =
      Prod.map (·.bind fun spec => (question spec.discovery).mapError .lookup) id <$> (loadBy fetch now url).run x := by
  simp only [askBy, StateT.run_bind, map_eq_pure_bind]
  refine bind_congr fun (loaded, after) => ?_
  cases loaded <;> rfl

/-- In whatever way documents are fetched, a question loads its document first and is answered from that. -/
theorem question_askBy_run (fetch : Request → m (Except FetchError (List Char))) :
    (q.askBy fetch now url).run x =
      Prod.map (·.bind (q.answer x.leniency)) id <$> (loadBy fetch now url).run x := by
  have mapped {α β : Type} (f : α → β) (question : Discovery → Except LookupError α) :
      ((·.map f) <$> askBy fetch now url question).run x =
        Prod.map (·.bind fun spec => ((question spec.discovery).mapError .lookup).map f) id <$>
          (loadBy fetch now url).run x := by
    rw [StateT.run_map, askBy_run, Functor.map_map]
    refine map_congr fun (loaded, after) => ?_
    cases loaded <;> rfl
  cases q with
  | load =>
    rw [Question.askBy, StateT.run_map]
    refine map_congr fun (loaded, after) => ?_
    cases loaded <;> rfl
  | discover => exact mapped ..
  | find => exact mapped ..
  | validate name own params body =>
    rw [Question.askBy, validateBy, StateT.run_map, StateT.run_bind, StateT.run_get, pure_bind, ← StateT.run_map]
    exact mapped ..
  | validateResponse => exact mapped ..

end By

/-- A question is answered from the document that is loaded for it. -/
theorem question_ask_eq : q.ask x net now url =
    ((x.load net now url).1.bind (q.answer x.leniency), (x.load net now url).2) := by
  have same : q.ask x net now url = x.through x.client net (q.askBy · now url) := by cases q <;> rfl
  rw [same, through, question_askBy_run]
  rfl

theorem load_of_found (found : x.cache.get? now url = some spec) : x.load net now url = (.ok spec, x) := by
  rw [load, loadWithin_eq, found]

/-- Where there is a place for a document, nothing goes if it cannot be kept. -/
theorem keep_of_free (free : x.cache.has url = true ∨ x.cache.entries.length < x.cache.capacity) (now : Nat)
    (spec : Spec) : x.keep now url spec =
      if Cache.reaches now x.cache.ttl then
        (.ok spec, { x with cache := x.cache.put url spec (now + x.cache.ttl) })
      else (.error .clock, x) := by
  rw [keep_eq, Cache.setFor, Cache.trySetFor, Cache.makeRoom_of_free free, Cache.putFor]
  split <;> rfl

/-- What a load can come to. Only a document that was missing is kept. -/
theorem load_cases (free : x.cache.has url = true ∨ x.cache.entries.length < x.cache.capacity) (net : Network)
    (now : Nat) :
    (∃ spec, x.cache.get? now url = some spec ∧ x.load net now url = (.ok spec, x)) ∨
    (∃ e, x.load net now url = (.error e, x)) ∨
    x.cache.get? now url = none ∧ ∃ spec, x.load net now url =
      (.ok spec, { x with cache := x.cache.put url spec (now + x.cache.ttl) }) := by
  cases found : x.cache.get? now url with
  | some spec => exact .inl ⟨spec, rfl, load_of_found found⟩
  | none =>
    have loaded : x.load net now url = x.receive now url (x.client.fetch net url) := by
      rw [load, loadWithin_eq, found]
    rw [loaded]
    cases x.client.fetch net url with
    | error e => exact .inr (.inl ⟨.fetch e, rfl⟩)
    | ok bytes =>
      rw [receive, loadBytes]
      cases Spec.ofBytes url bytes with
      | error e => exact .inr (.inl ⟨e, rfl⟩)
      | ok spec =>
        dsimp only
        rw [keep_of_free free]
        split
        · exact .inr (.inr ⟨rfl, spec, rfl⟩)
        · exact .inr (.inl ⟨.clock, rfl⟩)

end Explorer

structure Session where
  explorer : Explorer
  now : Nat

namespace Session

/-- What happens next. The network may answer each call in its own way. -/
inductive Move where
  | call (url : String) (net : Network) (q : Question)
  | pass (span : Nat)
  | sweep

def Move.url? : Move → Option String
  | .call url _ _ => some url
  | .pass _ | .sweep => none

def after (s : Session) : Move → Session
  | .call url net q => { s with explorer := (q.ask s.explorer net s.now url).2 }
  | .pass span => { s with now := s.now + span }
  | .sweep => { s with explorer := { s.explorer with cache := s.explorer.cache.cleanup s.now } }

def run (s : Session) (moves : List Move) : Session := moves.foldl after s

variable {s : Session} {urls : Finset String} {ttl expiry : Nat} {x : Explorer} {url : String}
  {spec : Spec} {m : Move} {moves : List Move}

/-- Keeps a document from now on. -/
def keep (s : Session) (url : String) (spec : Spec) : Session :=
  let cache := s.explorer.cache.put url spec (s.now + s.explorer.cache.ttl)
  { s with explorer := { s.explorer with cache } }

def shown (s : Session) : LiveStore Spec := s.explorer.cache.live s.now

/-- All that is in the cache is for some addresses, which it has room for. Otherwise the explorer is as it was. -/
structure Within (urls : Finset String) (ttl : Nat) (x : Explorer) (s : Session) : Prop where
  sound : s.explorer.cache.Sound
  few : urls.card ≤ s.explorer.cache.capacity
  inside : ∀ e ∈ s.explorer.cache.entries, e.key ∈ urls
  ttl : s.explorer.cache.ttl = ttl
  client : s.explorer.client = x.client
  leniency : s.explorer.leniency = x.leniency

/-- A document is shown until it expires, and nothing is shown in its place after that. -/
def Kept (url : String) (spec : Spec) (expiry : Nat) (s : Session) : Prop :=
  s.shown.bound url = if s.now < expiry then some (spec, expiry) else none

/-- No entry has to go for one of the addresses. -/
theorem Within.free (within : s.Within urls ttl x) (asked : url ∈ urls) :
    s.explorer.cache.has url = true ∨ s.explorer.cache.entries.length < s.explorer.cache.capacity :=
  within.sound.free_of_few within.inside asked within.few

/-- A call keeps the document that it was missing, or changes nothing. -/
theorem Within.after_call (within : s.Within urls ttl x) (asked : url ∈ urls) (net : Network) (q : Question) :
    s.after (.call url net q) = s ∨
      s.explorer.cache.get? s.now url = none ∧ ∃ spec, s.after (.call url net q) = s.keep url spec := by
  simp only [after, Explorer.question_ask_eq]
  rcases s.explorer.load_cases (within.free asked) net s.now with ⟨_, -, same⟩ | ⟨_, same⟩ | ⟨missed, spec, kept⟩
  · rw [same]
    exact .inl rfl
  · rw [same]
    exact .inl rfl
  · rw [kept]
    exact .inr ⟨missed, spec, rfl⟩

theorem Within.sound_keep (within : s.Within urls ttl x) (asked : url ∈ urls) (spec : Spec) :
    (s.keep url spec).explorer.cache.Sound :=
  within.sound.put (within.free asked) spec _

theorem Within.keep (within : s.Within urls ttl x) (asked : url ∈ urls) (spec : Spec) :
    (s.keep url spec).Within urls ttl x := by
  refine ⟨within.sound_keep asked spec, within.few, ?_, within.ttl, within.client, within.leniency⟩
  refine List.forall_mem_cons.mpr ⟨asked, fun e member => ?_⟩
  exact within.inside e (Cache.mem_erase.mp member).1

theorem Within.shown_keep (within : s.Within urls ttl x) (asked : url ∈ urls) (spec : Spec) :
    (s.keep url spec).shown = s.shown.bindUntil url spec (s.now + ttl) := by
  have shown : (s.keep url spec).shown = s.shown.bindUntil url spec (s.now + s.explorer.cache.ttl) :=
    Cache.live_put within.sound (within.sound_keep asked spec) s.now
  rwa [within.ttl] at shown

theorem Within.after (within : s.Within urls ttl x) (asked : ∀ url ∈ m.url?, url ∈ urls) :
    (s.after m).Within urls ttl x := by
  cases m with
  | call url net q =>
    rcases within.after_call (asked url rfl) net q with same | ⟨-, spec, kept⟩
    · rwa [same]
    · rw [kept]
      exact within.keep (asked url rfl) spec
  | pass span => exact { within with }
  | sweep =>
    refine { within with sound := within.sound.cleanup s.now, inside := fun e member => ?_ }
    exact within.inside e (List.mem_of_mem_filter member)

theorem Kept.get?_eq (kept : s.Kept url spec expiry) :
    s.explorer.cache.get? s.now url = if s.now < expiry then some spec else none := by
  rw [Cache.get?_eq_live, show (s.explorer.cache.live s.now).bound url = _ from kept]
  split <;> rfl

/-- What is kept stays so, also while other documents are kept beside it. Only what has expired may be
replaced. -/
theorem Kept.after (kept : s.Kept url spec expiry) (within : s.Within urls ttl x)
    (asked : ∀ url ∈ m.url?, url ∈ urls) (early : m.url? = some url → s.now < expiry) :
    (s.after m).Kept url spec expiry := by
  cases m with
  | call other net q =>
    rcases within.after_call (asked other rfl) net q with same | ⟨missed, document, stored⟩
    · rwa [same]
    · have apart : url ≠ other := by
        rintro rfl
        rw [kept.get?_eq, if_pos (early rfl)] at missed
        contradiction
      rw [stored, Kept, within.shown_keep (asked other rfl), LiveStore.bindUntil_of_ne apart]
      exact kept
  | pass span =>
    have shown : (s.after (.pass span)).shown = s.shown.pass span := Cache.live_add within.sound s.now span
    have bound : (s.shown.pass span).bound url = (s.shown.bound url).filter fun b => s.now + span < b.2 := rfl
    rw [Kept, shown, bound, show s.shown.bound url = _ from kept]
    by_cases later : s.now + span < expiry
    · have now : s.now < expiry := by omega
      simp [Session.after, later, now]
    · simp only [Session.after, later, if_false]
      split <;> simp [Nat.le_of_not_lt later]
  | sweep =>
    have shown : (s.after .sweep).shown = s.shown := Cache.live_cleanup within.sound (Nat.le_refl s.now)
    rw [Kept, shown]
    exact kept

theorem Within.run (within : s.Within urls ttl x) (asked : ∀ m ∈ moves, ∀ url ∈ m.url?, url ∈ urls) :
    (s.run moves).Within urls ttl x := by
  induction moves generalizing s with
  | nil => exact within
  | cons m rest ih =>
    obtain ⟨here, further⟩ := List.forall_mem_cons.mp asked
    exact ih (within.after here) further

/-- What is kept stays so in a session that does not call for it after it has expired. -/
theorem Kept.run (kept : s.Kept url spec expiry) (within : s.Within urls ttl x)
    (asked : ∀ m ∈ moves, ∀ url ∈ m.url?, url ∈ urls)
    (early : ∀ a m b, moves = a ++ m :: b → m.url? = some url → (s.run a).now < expiry) :
    (s.run moves).Kept url spec expiry := by
  induction moves generalizing s with
  | nil => exact kept
  | cons m rest ih =>
    obtain ⟨here, further⟩ := List.forall_mem_cons.mp asked
    refine ih (kept.after within here (early [] m rest rfl)) (within.after here) further ?_
    rintro a n b rfl
    exact early (m :: a) n b rfl

end Session
end ApiAtlas
