import ApiAtlas.Graph.Explorer
import ApiAtlas.Proofs.Graph.RootFields

/-! What is sent when a query is executed. How requests are sent is a parameter of an execution and may have
any effects, so that those of an execution are the effects of what it sends. Nothing is sent of a query that
cannot be read, does not say which operation to run, or has a problem with the catalog that is kept. A request
counts as sent when the client has it, which fails on its own if there is no address to go to. -/
namespace ApiAtlas

namespace Graph

structure Call.Carried (c : Call) (r : Request) : Prop where
  method : r.method = "POST"
  body : ∃ json, r.body = some json ∧ json.member? "query" = some (.str c.query) ∧
    json.member? "variables" = c.vars.map .obj ∧ json.member? "operationName" = c.operationName.map .str

theorem Call.carried_request (c : Call) (client : Client) (endpoint : String) :
    c.Carried (c.request client endpoint) := by
  refine ⟨rfl, c.toJson, rfl, rfl, ?_, ?_⟩ <;> obtain ⟨query, _ | vars, _ | name⟩ := c <;> rfl

/-- A catalog passes no query that does not say which operation to run. -/
theorem Catalog.select_of_check {c : Catalog} {q : Query} {name : Option String}
    (passes : c.check q name = []) : ∃ o, q.select name = .ok o := by
  cases selected : q.select name with
  | ok o => exact ⟨o, rfl⟩
  | error e => simp [check, selected] at passes

namespace Explorer

variable {m : Type → Type} [Monad m] [LawfulMonad m] {x : Explorer} {now : Nat} {endpoint query : String}
  {vars : Option (Table Json)} {name : Option String}

/-- All that must be in order before a query is sent. -/
def Clears (x : Explorer) (now : Nat) (endpoint query : String) (name : Option String) : Prop :=
  ∃ q o, Query.read query = .ok q ∧ q.select name = .ok o ∧
    ∀ c, x.cache.get? now endpoint = some c → c.check q name = []

inductive Refuses (x : Explorer) (now : Nat) (endpoint query : String) (name : Option String) : Failure → Prop
  | malformed {e} : Query.read query = .error e → Refuses x now endpoint query name (.malformed e)
  | unselected {q e} : Query.read query = .ok q → x.cache.get? now endpoint = none →
    q.select name = .error e → Refuses x now endpoint query name (.rejected [.selection e])
  | checked {q c} : Query.read query = .ok q → x.cache.get? now endpoint = some c → c.check q name ≠ [] →
    Refuses x now endpoint query name (.rejected (c.check q name))

theorem Clears.not_refuses {f : Failure} (clears : x.Clears now endpoint query name) :
    ¬ x.Refuses now endpoint query name f := by
  obtain ⟨q, o, read, selected, passes⟩ := clears
  rintro (malformed | ⟨read', -, unselected⟩ | ⟨read', kept, problems⟩)
  · rw [read] at malformed
    contradiction
  · obtain rfl := Except.ok.inj (read.symm.trans read')
    rw [selected] at unselected
    contradiction
  · obtain rfl := Except.ok.inj (read.symm.trans read')
    exact problems (passes _ kept)

/-- A query clears and a call is made of it, or it is refused. -/
theorem prepare_cases (x : Explorer) (now : Nat) (endpoint query : String) (vars : Option (Table Json))
    (name : Option String) :
    (x.Clears now endpoint query name ∧ x.prepare now endpoint query vars name = .ok ⟨query, vars, name⟩) ∨
    ∃ f, x.Refuses now endpoint query name f ∧ x.prepare now endpoint query vars name = .error f := by
  cases read : Query.read query with
  | error e => exact .inr ⟨_, .malformed read, by simp only [prepare, read]⟩
  | ok q =>
    cases kept : x.cache.get? now endpoint with
    | none =>
      cases selected : q.select name with
      | error e =>
        exact .inr ⟨_, .unselected read kept selected, by simp only [prepare, read, problems, kept, selected]⟩
      | ok o =>
        refine .inl ⟨⟨q, o, read, selected, by simp [kept]⟩, ?_⟩
        simp only [prepare, read, problems, kept, selected]
    | some c =>
      by_cases passes : c.check q name = []
      · obtain ⟨o, selected⟩ := Catalog.select_of_check passes
        refine .inl ⟨⟨q, o, read, selected, by simpa [kept] using passes⟩, ?_⟩
        simp only [prepare, read, problems, kept, passes]
      · refine .inr ⟨_, .checked read kept passes, ?_⟩
        simp only [prepare, read, problems, kept]

/-- In whatever way requests are sent, one is sent for a call and none for a failure. -/
theorem executeBy_run (post : Request → m (Except FetchError (List Char))) :
    (executeBy post now endpoint query vars name).run x =
      match x.prepare now endpoint query vars name with
      | .error e => pure (.error e, x)
      | .ok call =>
        (fun answer => (Call.receive endpoint answer, x)) <$> post (call.request x.client endpoint) := by
  cases prepared : x.prepare now endpoint query vars name with
  | error e => simp [executeBy, prepared]
  | ok call => simp [executeBy, prepared]

/-- What an execution comes to, what it leaves behind and what it sends. -/
structure Execution where
  outcome : Except Failure Response
  after : Explorer
  sent : List Request

/-- An execution whose requests are taken down. -/
def executeNoting (x : Explorer) (net : Network) (now : Nat) (endpoint query : String)
    (vars : Option (Table Json)) (name : Option String) : Execution :=
  let ((outcome, after), sent) :=
    ((executeBy (x.client.sendNoting net) now endpoint query vars name).run x).run []
  { outcome, after, sent }

theorem execute_eq (x : Explorer) (net : Network) (now : Nat) (endpoint query : String)
    (vars : Option (Table Json)) (name : Option String) :
    x.execute net now endpoint query vars name =
      match x.prepare now endpoint query vars name with
      | .error e => .error e
      | .ok call => call.send x.client net endpoint := by
  rw [execute, executeBy_run]
  cases x.prepare now endpoint query vars name <;> rfl

theorem executeNoting_eq (x : Explorer) (net : Network) (now : Nat) (endpoint query : String)
    (vars : Option (Table Json)) (name : Option String) :
    x.executeNoting net now endpoint query vars name =
      match x.prepare now endpoint query vars name with
      | .error e => ⟨.error e, x, []⟩
      | .ok call => ⟨call.send x.client net endpoint, x, [call.request x.client endpoint]⟩ := by
  rw [executeNoting, executeBy_run]
  cases x.prepare now endpoint query vars name <;> rfl

/-- An execution sends one request exactly if the query clears. The request says what was asked, and a response
that comes with success is the outcome, whatever errors it reports. A query that does not clear is refused with
all that is wrong with it. In no case anything is kept or forgotten. -/
theorem sent_exactly_if_clears (x : Explorer) (net : Network) (now : Nat) (endpoint query : String)
    (vars : Option (Table Json)) (name : Option String) :
    let call : Call := ⟨query, vars, name⟩
    let request := call.request x.client endpoint
    let execution := x.executeNoting net now endpoint query vars name
    execution.outcome = x.execute net now endpoint query vars name ∧ execution.after = x ∧
    (x.Clears now endpoint query name →
      execution.sent = [request] ∧ request.url = endpoint ∧ call.Carried request ∧
      execution.outcome = Call.receive endpoint (x.client.send net request) ∧
      ∀ status body r, (Url.parse endpoint).isOk = true → net request = .answered status body →
        200 ≤ status ∧ status < 300 → (Json.readTree? body).bind Response.ofTree? = some r →
        execution.outcome = .ok r) ∧
    (¬ x.Clears now endpoint query name →
      execution.sent = [] ∧ ∃ f, x.Refuses now endpoint query name f ∧ execution.outcome = .error f) := by
  intro call request execution
  have noted : execution = _ := x.executeNoting_eq net now endpoint query vars name
  have executed := x.execute_eq net now endpoint query vars name
  rcases x.prepare_cases now endpoint query vars name with ⟨clears, prepared⟩ | ⟨f, refuses, prepared⟩
  · simp only [prepared] at noted executed
    refine ⟨by rw [noted, executed], by rw [noted], fun _ => ?_, fun open_ => absurd clears open_⟩
    have outcome : execution.outcome = Call.receive endpoint (x.client.send net request) := by
      rw [noted]
      rfl
    refine ⟨by rw [noted], rfl, call.carried_request x.client endpoint, outcome, ?_⟩
    intro status body r addressed answered success decoded
    have received : x.client.send net request = .ok body :=
      Client.send_of_answered addressed answered success
    simp only [outcome, received, Call.receive, decoded]
  · simp only [prepared] at noted executed
    have blocked : ¬ x.Clears now endpoint query name := fun clears => clears.not_refuses refuses
    refine ⟨by rw [noted, executed], by rw [noted], fun clears => absurd clears blocked, fun _ => ?_⟩
    exact ⟨by rw [noted], f, refuses, by rw [noted]⟩

/-- Of two queries the one that the catalog knows is sent, while it is kept. Later the other one is sent too. -/
theorem unknown_field_not_sent :
    let c := Catalog.build "http://h" .plain
    let x := (keep { client := { timeout := 5000 }, cache := .empty 60000 2 } 0 "http://h" c).2
    let net : Network := fun _ => .answered 200 "\x7b\"errors\": [\x7b\"message\": \"no pings\"\x7d]\x7d".toList
    let ping := "\x7b ping \x7d"
    let pong := "\x7b pong \x7d"
    let execution (now : Nat) (query : String) := x.executeNoting net now "http://h" query none none
    let request (query : String) := Call.request { query } x.client "http://h"
    (execution 10 ping).sent = [request ping] ∧
    (∃ r, (execution 10 ping).outcome = .ok r ∧ r.summary = "no pings") ∧
    (execution 10 pong).sent = [] ∧
    (execution 10 pong).outcome = .error (.rejected [.unknownField "pong" "Query"]) ∧
    (execution 60000 pong).sent = [request pong] := by
  intro c x net ping pong execution request
  have kept : x.cache.get? 10 "http://h" = some c := rfl
  have expired : x.cache.get? 60000 "http://h" = none := rfl
  let asks (name : String) : Query := { operations := [{ kind := .query, fields := [{ name }] }] }
  have pings : Query.read ping = .ok (asks "ping") := Query.read_of_toOption (by decide +kernel)
  have pongs : Query.read pong = .ok (asks "pong") := Query.read_of_toOption (by decide +kernel)
  have passes : c.check (asks "ping") none = [] := by decide +kernel
  have problems : c.check (asks "pong") none = [.unknownField "pong" "Query"] := by decide +kernel
  clear_value x c
  have clears : x.Clears 10 "http://h" ping none := by
    refine ⟨_, _, pings, rfl, fun other found => ?_⟩
    obtain rfl := Option.some.inj (kept.symm.trans found)
    exact passes
  have later : x.Clears 60000 "http://h" pong none := ⟨_, _, pongs, rfl, by simp [expired]⟩
  have decoded : ((Json.readTree? "\x7b\"errors\": [\x7b\"message\": \"no pings\"\x7d]\x7d".toList).bind
      Response.ofTree?).map Response.summary = some "no pings" := by decide +kernel
  obtain ⟨r, decoded, summary⟩ := Option.map_eq_some_iff.mp decoded
  obtain ⟨sent, -, -, -, answered⟩ := (x.sent_exactly_if_clears net 10 "http://h" ping none none).2.2.1 clears
  have response := answered 200 _ r (by decide +kernel) rfl (by decide) decoded
  have blocked : ¬ x.Clears 10 "http://h" pong none := by
    rintro ⟨q, o, reads, -, passes⟩
    obtain rfl := Except.ok.inj (pongs.symm.trans reads)
    exact absurd (problems.symm.trans (passes c kept)) (List.cons_ne_nil _ _)
  obtain ⟨unsent, f, refuses, failed⟩ := (x.sent_exactly_if_clears net 10 "http://h" pong none none).2.2.2 blocked
  refine ⟨sent, ⟨r, response, summary⟩, unsent, ?_,
    ((x.sent_exactly_if_clears net 60000 "http://h" pong none none).2.2.1 later).1⟩
  rw [failed]
  rcases refuses with malformed | ⟨-, missing, -⟩ | ⟨reads, found, -⟩
  · exact absurd (pongs.symm.trans malformed) (by simp)
  · exact absurd (kept.symm.trans missing) (Option.some_ne_none c)
  · obtain rfl := Except.ok.inj (pongs.symm.trans reads)
    obtain rfl := Option.some.inj (kept.symm.trans found)
    rw [problems]

end Explorer
end Graph
end ApiAtlas
