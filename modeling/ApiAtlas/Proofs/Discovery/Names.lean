import ApiAtlas.Proofs.Discovery.Declared
import ApiAtlas.Validation
import Mathlib.Data.List.Pairwise

/-! Endpoints by name. An endpoint is displayed under the identifier that its operation declares, or else under
a name made from its route, which leaves out the names of parameters and the plural of what they follow. Two
endpoints may therefore be displayed under one name. A look-up by that name finds the one that declares it, or
else the first of them. -/
namespace ApiAtlas

namespace RouteName

def segments (path : String) : List (List Char) := (splitOn '/' path.toList).filter (!·.isEmpty)

/-- What a name keeps of a path: its fixed segments, singular where a parameter follows, and whether a parameter
is the last segment. -/
def outline (path : String) : List (List Char) × Bool :=
  ((resources (segments path)).map fun (segment, single) => if single then singular segment else segment,
    ((segments path).getLast?.map isParameter).getD false)

/-- Paths with one outline are named alike. -/
theorem ofRoute_of_outline {path path' : String} (method : String) (same : outline path = outline path') :
    ofRoute method path = ofRoute method path' := by
  have name (path : String) : ofRoute method path = (outline path).1.foldl
      (fun name segment => name ++ Words.capitalized (String.ofList segment))
      (verb (Case.upperText method) (outline path).2) := by
    simp only [ofRoute, outline, segments, List.foldl_map]
  rw [name, name, same]

end RouteName

def Document.operationIds (d : Document) : List String :=
  d.paths.flatMap fun (_, item) => Verb.all.filterMap fun v => (item.operation? v).bind (·.operationId)

/-- Identifiers stay when references are resolved. -/
theorem Document.PathsKept.operationIds_eq {c : Components} {given kept : Document}
    (same : given.PathsKept c kept) : kept.operationIds = given.operationIds := by
  unfold PathsKept at same
  unfold operationIds
  generalize given.paths = paths, kept.paths = paths' at same ⊢
  induction same with
  | nil => rfl
  | @cons p q _ _ entry _ ih =>
    simp only [List.flatMap_cons, ih]
    congr 1
    refine List.filterMap_congr fun v _ => ?_
    have operations := entry.2.operation v
    generalize p.2.operation? v = o, q.2.operation? v = o' at operations ⊢
    cases operations with
    | none => rfl
    | some operation =>
      rw [operation.rest]
      rfl

namespace Discovery

variable {d : Discovery} {e o : Endpoint} {id : String}

theorem operationIds_endpoints (d : Discovery) :
    d.endpoints.filterMap (·.operationId) = d.document.operationIds := by
  simp only [endpoints, Document.operationIds, PathItem.operations, List.filterMap_flatMap,
    List.filterMap_map, List.filterMap_filterMap, Function.comp_def]
  refine List.flatMap_congr fun p _ => List.filterMap_congr fun v _ => ?_
  cases p.2.operation? v <;> rfl

theorem displayId_of_mem (member : e ∈ d.endpoints) :
    e.displayId = e.operationId.getD (RouteName.ofRoute e.method e.path) := by
  obtain ⟨⟨path, item⟩, -, member⟩ := List.mem_flatMap.mp member
  obtain ⟨⟨v, o⟩, -, rfl⟩ := List.mem_map.mp member
  rfl

theorem displayId_of_declared (member : e ∈ d.endpoints) (declared : e.operationId = some id) :
    e.displayId = id := by
  rw [displayId_of_mem member, declared]
  rfl

/-- Where identifiers are distinct, one endpoint declares each. -/
theorem eq_of_operationId (distinct : d.document.operationIds.Nodup) (member : e ∈ d.endpoints)
    (other : o ∈ d.endpoints) (declared : e.operationId = some id) (again : o.operationId = some id) :
    e = o := by
  rw [← operationIds_endpoints, List.Nodup, List.pairwise_filterMap] at distinct
  by_contra apart
  have symmetric : Std.Symm fun a b : Endpoint =>
      ∀ i, a.operationId = some i → ∀ j, b.operationId = some j → i ≠ j :=
    ⟨fun a b ne i first j second => (ne j second i first).symm⟩
  exact distinct.forall member other apart id declared id again rfl

theorem findById_eq_ok_iff : d.findById id = .ok e ↔ d.findById? id = some e := by
  unfold findById
  cases d.findById? id <;> simp

/-- What is found under an identifier: the first endpoint that declares it, or if none does, the first one that
is displayed under it. -/
theorem findById?_eq_some_iff : d.findById? id = some e ↔
    (e.operationId = some id ∧
      ∃ before after, d.endpoints = before ++ e :: after ∧ ∀ o ∈ before, o.operationId ≠ some id) ∨
    ((∀ o ∈ d.endpoints, o.operationId ≠ some id) ∧ e.displayId = id ∧
      ∃ before after, d.endpoints = before ++ e :: after ∧ ∀ o ∈ before, o.displayId ≠ id) := by
  simp only [findById?, Option.or_eq_some_iff, List.find?_eq_some_iff_append, List.find?_eq_none,
    decide_eq_true_eq, Bool.not_eq_true', decide_eq_false_iff_not]

/-- Something is found under every name that is displayed. -/
theorem exists_found (member : e ∈ d.endpoints) :
    ∃ o ∈ d.endpoints, o.displayId = e.displayId ∧ d.findById e.displayId = .ok o := by
  have present : (d.findById? e.displayId).isSome = true := by
    have displayed : (d.endpoints.find? (·.displayId = e.displayId)).isSome = true :=
      List.find?_isSome.mpr ⟨e, member, by simp⟩
    simp [findById?, Option.isSome_or, displayed]
  obtain ⟨o, search⟩ := Option.isSome_iff_exists.mp present
  have found := findById_eq_ok_iff.mpr search
  have inside := mem_endpoints_of_findById found
  refine ⟨o, inside, ?_, found⟩
  rcases findById?_eq_some_iff.mp search with ⟨declared, -⟩ | ⟨-, displayed, -⟩
  · exact displayId_of_declared inside declared
  · exact displayed

/-- An endpoint is found under its own name if it declares the name, or if no endpoint declares it and none
before is displayed under it. -/
theorem findById_displayId_iff (distinct : d.document.operationIds.Nodup) (member : e ∈ d.endpoints) :
    d.findById e.displayId = .ok e ↔ e.operationId ≠ none ∨
      ((∀ o ∈ d.endpoints, o.operationId ≠ some e.displayId) ∧
        ∃ before after, d.endpoints = before ++ e :: after ∧ ∀ o ∈ before, o.displayId ≠ e.displayId) := by
  rw [findById_eq_ok_iff, findById?_eq_some_iff]
  constructor
  · rintro (⟨declared, -⟩ | ⟨undeclared, -, first⟩)
    · exact .inl (by simp [declared])
    · exact .inr ⟨undeclared, first⟩
  · rintro (declared | ⟨undeclared, first⟩)
    · obtain ⟨id, declared⟩ := Option.ne_none_iff_exists'.mp declared
      obtain rfl := displayId_of_declared member declared
      obtain ⟨o, inside, -, found⟩ := exists_found member
      have search := findById?_eq_some_iff.mp (findById_eq_ok_iff.mp found)
      rcases search with ⟨again, first⟩ | ⟨undeclared, -⟩
      · obtain rfl := eq_of_operationId distinct member inside declared again
        exact .inl ⟨declared, first⟩
      · exact absurd declared (undeclared e member)
    · exact .inr ⟨undeclared, rfl, first⟩

/-- Different endpoints of a document are different in path or method. -/
theorem nodup_endpoints (distinct : d.document.paths.keys.Nodup) : d.endpoints.Nodup := by
  have keys := nodup_keys distinct
  rw [Table.keys, List.map_map] at keys
  exact keys.of_map _

/-- All endpoints are found under their names exactly if no two of them are displayed under one name. -/
theorem all_found_iff (distinct : d.document.paths.keys.Nodup) :
    (∀ e ∈ d.endpoints, d.findById e.displayId = .ok e) ↔ (d.endpoints.map (·.displayId)).Nodup := by
  constructor
  · intro found
    refine (nodup_endpoints distinct).map_on fun e member o other same => ?_
    have search := found e member
    rw [same, found o other] at search
    exact (Except.ok.inj search).symm
  · intro names e member
    obtain ⟨o, inside, same, found⟩ := exists_found member
    rw [List.inj_on_of_nodup_map names inside member same] at found
    exact found

/-- Two endpoints of one method that declare nothing are displayed under one name if their paths have one
outline. -/
theorem displayId_of_outline (member : e ∈ d.endpoints) (other : o ∈ d.endpoints)
    (undeclared : e.operationId = none ∧ o.operationId = none) (methods : e.method = o.method)
    (outlines : RouteName.outline e.path = RouteName.outline o.path) : e.displayId = o.displayId := by
  rw [displayId_of_mem member, displayId_of_mem other, undeclared.1, undeclared.2, methods]
  exact RouteName.ofRoute_of_outline _ outlines

/-- What is found under the names that discovery displays, and so answers for requests under them. -/
theorem found_under_own_name {doc : Document} (paths : doc.paths.keys.Nodup)
    (distinct : doc.operationIds.Nodup) (made : ofDocument doc = .ok d) :
    (∀ e ∈ d.endpoints, e.displayId = e.operationId.getD (RouteName.ofRoute e.method e.path) ∧
      (∃ o ∈ d.endpoints, o.displayId = e.displayId ∧ d.findById e.displayId = .ok o ∧
        ∀ l params body, d.validate e.displayId l params body = .ok (o.validate e.displayId l params body)) ∧
      (d.findById e.displayId = .ok e ↔ e.operationId ≠ none ∨
        ((∀ o ∈ d.endpoints, o.operationId ≠ some e.displayId) ∧
          ∃ before after, d.endpoints = before ++ e :: after ∧ ∀ o ∈ before, o.displayId ≠ e.displayId))) ∧
    ((∀ e ∈ d.endpoints, d.findById e.displayId = .ok e) ↔ (d.endpoints.map (·.displayId)).Nodup) ∧
    ∀ e ∈ d.endpoints, ∀ o ∈ d.endpoints, e.operationId = none → o.operationId = none →
      e.method = o.method → RouteName.outline e.path = RouteName.outline o.path →
      e.displayId = o.displayId := by
  have kept := Document.pathsKept_of_resolve (resolve_of_ofDocument made)
  have distinct' : d.document.operationIds.Nodup := kept.operationIds_eq ▸ distinct
  have paths' : d.document.paths.keys.Nodup := kept.keys_eq ▸ paths
  refine ⟨fun e member => ⟨displayId_of_mem member, ?_, findById_displayId_iff distinct' member⟩,
    all_found_iff paths', fun e member o other undeclared undeclared' =>
      displayId_of_outline member other ⟨undeclared, undeclared'⟩⟩
  obtain ⟨o, inside, same, found⟩ := exists_found member
  exact ⟨o, inside, same, found, validate_of_found found⟩

def Document.rooted : Document where
  paths := [("/", { get := some {}, post := some {} }),
    ("/\x7bid\x7d", { get := some { operationId := some "getOne" } })]

/-- The names are different, and each operation is found under its own. -/
theorem rooted_found : ∃ d, ofDocument Document.rooted = .ok d ∧
    d.endpoints.map (·.displayId) = ["list", "create", "getOne"] ∧
    ∀ e ∈ d.endpoints, d.findById e.displayId = .ok e := by
  obtain ⟨d, made, names⟩ : ∃ d, ofDocument Document.rooted = .ok d ∧
      d.endpoints.map (·.displayId) = ["list", "create", "getOne"] := by
    rw [ofDocument, Document.resolve_eq]
    exact ⟨_, rfl, by decide⟩
  refine ⟨d, made, names, ?_⟩
  obtain ⟨-, all, -⟩ := found_under_own_name (by decide) (by decide) made
  exact all.mpr (names ▸ by decide)

/-- A document with an operation for one user under two paths, neither of which declares a name. -/
def Document.twoUsers : Document where
  paths := [("/users/\x7bid\x7d", { get := some {} }), ("/user/\x7bid\x7d", { get := some {} })]

/-- Both are displayed under one name, so that the second one is not found. -/
theorem second_user_not_found : ¬ ∀ (doc : Document) (d : Discovery), doc.paths.keys.Nodup →
    doc.operationIds.Nodup → ofDocument doc = .ok d →
    ∀ e ∈ d.endpoints, d.findById e.displayId = .ok e := by
  intro claim
  obtain ⟨d, made, paths, names⟩ : ∃ d, ofDocument Document.twoUsers = .ok d ∧ d.document.paths.keys.Nodup ∧
      d.endpoints.map (·.displayId) = [RouteName.ofRoute "GET" "/users/\x7bid\x7d",
        RouteName.ofRoute "GET" "/user/\x7bid\x7d"] := by
    rw [ofDocument, Document.resolve_eq]
    exact ⟨_, rfl, by decide, rfl⟩
  have distinct := (all_found_iff paths).mp (claim _ d (by decide) (by decide) made)
  have same : RouteName.ofRoute "GET" "/users/\x7bid\x7d" = RouteName.ofRoute "GET" "/user/\x7bid\x7d" :=
    RouteName.ofRoute_of_outline _ (by decide)
  rw [names, same] at distinct
  simp at distinct

end Discovery
end ApiAtlas
