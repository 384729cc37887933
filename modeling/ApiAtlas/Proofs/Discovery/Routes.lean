import ApiAtlas.Discovery
import ApiAtlas.Proofs.Discovery.Key
import ApiAtlas.Proofs.Document.Kept
import ApiAtlas.Proofs.Table

/-! Discovery agrees with the document. There is one endpoint for every path and declared verb, in the order
of the paths and then of `Verb.all`. Their keys are different, so that the index and the map by method and
path hold each of them, and a look-up finds the one it asks for or nothing. -/
namespace ApiAtlas

/-- The paths and verbs for which a document declares an operation. -/
def Document.routes (d : Document) : List (String × Verb) :=
  d.paths.flatMap fun (path, item) =>
    (Verb.all.filter fun v => (item.operation? v).isSome).map fun v => (path, v)

namespace Verb

theorem nodup_all : all.Nodup := by decide

theorem upperText_text (v : Verb) : Case.upperText v.text = v.text := by cases v <;> decide +kernel

theorem spaceless_text (v : Verb) : ' ' ∉ v.text.toList := by cases v <;> decide

theorem ascii_text (v : Verb) : ∀ c ∈ v.text.toList, c.toNat < 0x80 := by
  have ascii : (v.text.toList.all fun c => c.toNat < 0x80) = true := by cases v <;> decide
  simpa using ascii

theorem text_injective {v w : Verb} (same : v.text = w.text) : v = w := by
  revert same
  cases v <;> cases w <;> decide

end Verb

/-- Tables whose entries have the same keys, one by one. -/
theorem Table.keys_eq_of_forall₂ {α β : Type} {R : String × α → String × β → Prop} {t : Table α} {u : Table β}
    (same : List.Forall₂ (fun p q => p.1 = q.1 ∧ R p q) t u) : u.keys = t.keys := by
  unfold keys
  induction same with
  | nil => rfl
  | cons entry _ ih => simp only [List.map_cons, ih, entry.1]

namespace Document

variable {c : Components} {given kept d : Document}

/-- Paths and verbs stay when references are resolved. -/
theorem PathsKept.keys_eq (same : given.PathsKept c kept) : kept.paths.keys = given.paths.keys :=
  Table.keys_eq_of_forall₂ same

theorem PathsKept.routes_eq (same : given.PathsKept c kept) : kept.routes = given.routes := by
  unfold PathsKept at same
  unfold routes
  generalize given.paths = paths, kept.paths = paths' at same ⊢
  induction same with
  | nil => rfl
  | cons entry _ ih =>
    simp only [List.flatMap_cons, ih, entry.2.isSome_operation, entry.1]

/-- A path and a verb are declared once. -/
theorem nodup_routes (distinct : d.paths.keys.Nodup) : d.routes.Nodup := by
  rw [routes, List.nodup_flatMap]
  constructor
  · rintro ⟨path, item⟩ -
    exact (Verb.nodup_all.filter _).map fun v w same => (Prod.mk.inj same).2
  · refine (List.pairwise_map.mp distinct).imp ?_
    intro p q apart
    simp only [Function.onFun, List.disjoint_left, List.mem_map, not_exists, not_and]
    rintro _ ⟨v, -, rfl⟩ w - same
    exact apart (Prod.mk.inj same).1.symm

end Document

theorem Index.byKey_build (endpoints : List Endpoint) :
    (build endpoints).byKey = Table.ofPairs (endpoints.map fun e => (e.key, e)) := by
  induction endpoints using List.reverseRecOn with
  | nil => rfl
  | append_singleton endpoints e ih =>
    have step : build (endpoints ++ [e]) = (build endpoints).add e := by
      simp [build, List.foldl_append]
    rw [step, List.map_append, List.map_cons, List.map_nil, Table.ofPairs_concat, ← ih]
    rfl

namespace Discovery

variable {d : Discovery} {e : Endpoint} {method path : String}

/-- The endpoints are those of the routes, in their order. -/
theorem endpoints_routes (d : Discovery) :
    d.endpoints.map (fun e => (e.path, e.method)) =
      d.document.routes.map fun r => (r.1, r.2.text) := by
  have each (item : PathItem) : item.operations.map Prod.fst =
      Verb.all.filter fun v => (item.operation? v).isSome := by
    rw [PathItem.operations, List.map_filterMap, ← List.filterMap_eq_filter]
    refine List.filterMap_congr fun v _ => ?_
    cases found : item.operation? v <;> simp [Option.guard, found]
  simp only [endpoints, Document.routes, List.map_flatMap, List.map_map, ← each, Function.comp_def]
  rfl

theorem mem_endpoints_route (member : e ∈ d.endpoints) :
    ∃ v, (e.path, v) ∈ d.document.routes ∧ e.method = v.text := by
  have listed : (e.path, e.method) ∈ d.document.routes.map fun r => (r.1, r.2.text) := by
    rw [← endpoints_routes]
    exact List.mem_map_of_mem (f := fun e : Endpoint => (e.path, e.method)) member
  obtain ⟨⟨path, v⟩, declared, same⟩ := List.mem_map.mp listed
  obtain ⟨rfl, method⟩ := Prod.mk.inj same
  exact ⟨v, declared, method.symm⟩

/-- Different endpoints have different keys. -/
theorem nodup_keys (distinct : d.document.paths.keys.Nodup) :
    (Table.keys (d.endpoints.map fun e => (e.key, e))).Nodup := by
  have keys : Table.keys (d.endpoints.map fun e => (e.key, e)) =
      (d.endpoints.map fun e => (e.path, e.method)).map fun r => Endpoint.keyOf r.2 r.1 := by
    simp [Table.keys, Endpoint.key, Function.comp_def]
  rw [keys, endpoints_routes, List.map_map]
  refine (Document.nodup_routes distinct).map ?_
  rintro ⟨path, v⟩ ⟨path', w⟩ same
  -- Verbs are in upper case and have no space, so that a key determines the verb and the path.
  obtain ⟨methods, paths⟩ := Endpoint.keyOf_injective same v.spaceless_text w.spaceless_text
  rw [v.upperText_text, w.upperText_text] at methods
  exact Prod.ext paths (Verb.text_injective methods)

/-- The map holds the endpoints and nothing else, and so does the index. -/
theorem pathMap_eq (distinct : d.document.paths.keys.Nodup) :
    d.pathMap = d.endpoints.map fun e => (e.key, e) :=
  Table.ofPairs_eq_self (nodup_keys distinct)

theorem byKey_eq_pathMap (d : Discovery) : d.index.byKey = d.pathMap := Index.byKey_build _

theorem find?_eq_some_iff_key (distinct : d.document.paths.keys.Nodup) :
    d.find? method path = some e ↔ e ∈ d.endpoints ∧ e.key = Endpoint.keyOf method path := by
  have table := nodup_keys distinct
  rw [← pathMap_eq distinct] at table
  rw [find?, Index.get?, byKey_eq_pathMap, Table.get?_eq_some_iff table, pathMap_eq distinct]
  simp only [List.mem_map, Prod.mk.injEq]
  constructor
  · rintro ⟨_, member, same, rfl⟩
    exact ⟨member, same⟩
  · rintro ⟨member, same⟩
    exact ⟨e, member, same, rfl⟩

/-- What is found has the method in upper case and the path, if there is no space in the method. -/
theorem find?_eq_some_iff (distinct : d.document.paths.keys.Nodup) (spaceless : ' ' ∉ method.toList) :
    d.find? method path = some e ↔
      e ∈ d.endpoints ∧ e.method = Case.upperText method ∧ e.path = path := by
  rw [find?_eq_some_iff_key distinct]
  refine and_congr_right fun member => ?_
  obtain ⟨v, -, verb⟩ := mem_endpoints_route member
  have raised : Case.upperText e.method = e.method := by rw [verb, v.upperText_text]
  constructor
  · intro same
    have parts := Endpoint.keyOf_injective same (verb ▸ v.spaceless_text) spaceless
    rwa [raised] at parts
  · rintro ⟨methods, rfl⟩
    rw [Endpoint.key, Endpoint.keyOf, Endpoint.keyOf, raised, methods]

/-- An endpoint is found by its method in any letter case and its path. -/
theorem find?_of_case (distinct : d.document.paths.keys.Nodup) (member : e ∈ d.endpoints)
    (raised : method.toList.map Char.toUpper = e.method.toList) : d.find? method e.path = some e := by
  obtain ⟨v, -, verb⟩ := mem_endpoints_route member
  have upper : Case.upperText method = e.method :=
    Case.upperText_of_toUpper (verb ▸ v.ascii_text) raised
  rw [find?_eq_some_iff_key distinct]
  refine ⟨member, ?_⟩
  rw [Endpoint.key, Endpoint.keyOf, Endpoint.keyOf, upper, verb, v.upperText_text]

theorem resolve_of_ofDocument {doc : Document} (made : ofDocument doc = .ok d) :
    doc.resolve = .ok d.document := by
  unfold ofDocument at made
  cases resolved : doc.resolve with
  | error e =>
    rw [resolved] at made
    contradiction
  | ok r =>
    rw [resolved] at made
    cases made
    rfl

/-- Endpoints, look-ups, index and map agree with what a document declares. -/
theorem agrees_with_document {doc : Document} (distinct : doc.paths.keys.Nodup)
    (made : ofDocument doc = .ok d) :
    (d.endpoints.map (fun e => (e.path, e.method)) = doc.routes.map fun r => (r.1, r.2.text)) ∧
    doc.routes.Nodup ∧
    (∀ e ∈ d.endpoints, ∀ method : String, method.toList.map Char.toUpper = e.method.toList →
      d.find? method e.path = some e) ∧
    (∀ method path : String, ' ' ∉ method.toList →
      (∀ e, d.find? method path = some e ↔
        e ∈ d.endpoints ∧ e.method = Case.upperText method ∧ e.path = path) ∧
      ((∀ v, (path, v) ∈ doc.routes → v.text ≠ Case.upperText method) → d.find? method path = none)) ∧
    d.index.size = d.endpoints.length ∧
    d.pathMap = d.endpoints.map fun e => (e.key, e) := by
  have kept := Document.pathsKept_of_resolve (resolve_of_ofDocument made)
  have routes : d.document.routes = doc.routes := kept.routes_eq
  have distinct' : d.document.paths.keys.Nodup := kept.keys_eq ▸ distinct
  have map := pathMap_eq distinct'
  refine ⟨routes ▸ d.endpoints_routes, Document.nodup_routes distinct,
    fun e member method raised => find?_of_case distinct' member raised,
    fun method path spaceless => ⟨fun e => find?_eq_some_iff distinct' spaceless, fun undeclared => ?_⟩,
    ?_, map⟩
  · by_contra some
    obtain ⟨e, found⟩ := Option.ne_none_iff_exists'.mp some
    obtain ⟨member, methods, rfl⟩ := (find?_eq_some_iff distinct' spaceless).mp found
    obtain ⟨v, declared, verb⟩ := mem_endpoints_route member
    exact undeclared v (routes ▸ declared) (verb.symm.trans methods)
  · rw [Index.size, byKey_eq_pathMap, map, List.length_map]

def Document.spaced : Document where
  paths := [("/items", { post := some {}, get := some {} }), ("/old items", { trace := some {} })]

/-- They are listed by path and verb and found in the index, and there is nothing behind the space. -/
theorem spaced_agrees : ∃ d, ofDocument Document.spaced = .ok d ∧
    d.endpoints.map (fun e => (e.path, e.method)) =
      [("/items", "GET"), ("/items", "POST"), ("/old items", "TRACE")] ∧
    d.find? "TRACE" "items" = none ∧ d.index.size = 3 := by
  obtain ⟨d, made⟩ : ∃ d, ofDocument Document.spaced = .ok d := ⟨_, rfl⟩
  obtain ⟨listed, -, -, found, size, -⟩ :=
    agrees_with_document (by decide) made
  have routes : Document.spaced.routes =
      [("/items", .get), ("/items", .post), ("/old items", .trace)] := rfl
  rw [routes] at listed
  refine ⟨d, made, listed, (found "TRACE" "items" (by decide)).2 ?_, ?_⟩
  · intro v declared
    rw [routes] at declared
    simp at declared
  · rw [size, ← List.length_map, listed]
    rfl

end Discovery
end ApiAtlas
