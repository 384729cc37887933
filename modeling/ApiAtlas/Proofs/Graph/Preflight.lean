import ApiAtlas.Proofs.Graph.Sample
import Mathlib.Data.List.Nodup

/-! Examples pass the check that is made before a query is sent. The operation that an example runs has one
field, which the catalog finds under its name if the names on the root type are distinct, with the arguments
that must be given and no others. -/
namespace ApiAtlas.Graph

/-- What the name of a root type is declared to be. -/
def Introspection.root (i : Introspection) : OperationKind → Option String
  | .query => i.query
  | .mutation => i.mutation
  | .subscription => i.subscription

/-- A schema whose examples can be read: with names as the query language has them, lists that are not too
deep, and no two fields of one name on a root type. -/
structure Introspection.Readable (i : Introspection) : Prop where
  fields : ∀ t ∈ i.types, ∀ f ∈ t.allFields, Token.isName f.name = true
  arguments : ∀ t ∈ i.types, ∀ f ∈ t.allFields, ∀ a ∈ f.arguments,
    Token.isName a.name = true ∧ a.type.listDepth < 60
  distinct : ∀ kind, ∀ t ∈ (i.root kind).bind i.type?, (t.allFields.map Field.name).Nodup

def Field.summary (f : Field) (kind : OperationKind) : Query :=
  ⟨[⟨kind, none, [], [⟨f.name, none, f.given⟩]⟩], []⟩

theorem Introspection.mem_types_of_type? {i : Introspection} {name : String} {t : FullType}
    (found : i.type? name = some t) : t ∈ i.types := List.mem_of_find?_eq_some found

theorem Query.read_of_document {text : String} {ts : List Token} {offset : Nat} {q : Query}
    (lexed : Token.ofText text.toList = (ts, .complete offset))
    (document : Grammar.Document text.toList ts q) : read text = .ok q := by
  simp only [read, lexed, ofTokens_of_document document]

namespace RootOperation

variable {i : Introspection} {kind : OperationKind} {f : Field}

theorem requiredArguments_ofField : (ofField i kind f).requiredArguments = f.given := by
  simp only [ofField, Field.given, List.filter_map, List.map_map]
  rfl

/-- The arguments that an example gives are arguments of the operation. -/
theorem argument?_ofField {name : String} (given : name ∈ f.given) :
    ((ofField i kind f).argument? name).isSome = true := by
  obtain ⟨a, member, rfl⟩ := List.mem_map.mp given
  rw [argument?, List.find?_isSome]
  refine ⟨_, List.mem_map_of_mem (List.mem_of_mem_filter member), ?_⟩
  simp

end RootOperation

namespace Catalog

variable {i : Introspection} {endpoint : String} {kind : OperationKind} {o : RootOperation}

theorem operations_build (endpoint : String) (i : Introspection) (kind : OperationKind) :
    (build endpoint i).operations kind = operationsOf i kind (i.root kind) := by
  cases kind <;> rfl

theorem lookup_roots (endpoint : String) (i : Introspection) (kind : OperationKind) :
    (build endpoint i).roots.lookup kind = i.root kind := by
  obtain ⟨query, mutation, subscription, types⟩ := i
  cases kind <;> cases query <;> cases mutation <;> cases subscription <;> rfl

/-- An operation is made from a field on the root type of its kind. -/
theorem exists_field (member : o ∈ (build endpoint i).operations kind) :
    ∃ name t f, i.root kind = some name ∧ i.type? name = some t ∧ f ∈ t.allFields ∧
      FullType.isReserved f.name = false ∧ o = .ofField i kind f := by
  rw [operations_build, operationsOf] at member
  split at member
  next t found =>
    obtain ⟨name, root, found⟩ := Option.bind_eq_some_iff.mp found
    obtain ⟨f, listed, rfl⟩ := List.mem_map.mp (List.mem_mergeSort.mp member)
    obtain ⟨field, open_⟩ := List.mem_filter.mp listed
    exact ⟨name, t, f, root, found, field, by simpa using open_, rfl⟩
  next => contradiction

theorem nodup_names (readable : i.Readable) :
    (((build endpoint i).operations kind).map RootOperation.name).Nodup := by
  rw [operations_build, operationsOf]
  split
  next t found =>
    have names := ((List.filter_sublist (p := (!FullType.isReserved ·.name)) (l := t.allFields)).map
      Field.name).nodup (readable.distinct kind t found)
    have sorted := (List.mergeSort_perm ((t.allFields.filter (!FullType.isReserved ·.name)).map
      (RootOperation.ofField i kind)) fun a b => a.name ≤ b.name).map RootOperation.name
    refine sorted.nodup_iff.mpr ?_
    rw [List.map_map]
    exact names
  next => exact List.nodup_nil

/-- An operation is found under its name. -/
theorem find?_name (readable : i.Readable) (member : o ∈ (build endpoint i).operations kind) :
    (build endpoint i).find? kind o.name = some o := by
  have some : ((build endpoint i).find? kind o.name).isSome = true := by
    rw [find?, List.find?_isSome]
    exact ⟨o, member, by simp⟩
  obtain ⟨o', found⟩ := Option.isSome_iff_exists.mp some
  have same : o'.name = o.name := by simpa using List.find?_some found
  rw [found, List.inj_on_of_nodup_map (nodup_names readable) (List.mem_of_find?_eq_some found) member same]

/-- What the example for a field says has no problems. -/
theorem check_summary (readable : i.Readable) {f : Field}
    (member : .ofField i kind f ∈ (build endpoint i).operations kind) :
    (build endpoint i).check (f.summary kind) none = [] := by
  obtain ⟨root, -, -, declared, -⟩ := exists_field member
  have found : (build endpoint i).find? kind f.name = some (.ofField i kind f) := find?_name readable member
  have known : (f.given.filter fun a => ((RootOperation.ofField i kind f).argument? a).isNone) = [] := by
    refine List.filter_eq_nil_iff.mpr fun a given => ?_
    have declared : ((RootOperation.ofField i kind f).argument? a).isSome = true :=
      RootOperation.argument?_ofField given
    simpa using Option.isSome_iff_ne_none.mp declared
  have complete : ((RootOperation.ofField i kind f).requiredArguments.filter fun a => !f.given.contains a)
      = [] := by
    rw [RootOperation.requiredArguments_ofField]
    exact List.filter_eq_nil_iff.mpr fun a given => by simpa using given
  simp only [check, Field.summary, Query.select, lookup_roots, declared, List.flatMap_cons, List.flatMap_nil,
    List.append_nil, fieldProblems, found, known, complete, List.map_nil]
  exact ite_self _

/-- Every example can be read and passes the check of the catalog that it comes from. -/
theorem sample_passes_check (readable : i.Readable) (endpoint : String) (kind : OperationKind) :
    ∀ o ∈ (build endpoint i).operations kind,
      ∃ q, Query.read o.sample = .ok q ∧ (build endpoint i).check q none = [] := by
  intro o member
  obtain ⟨name, t, f, root, found, field, -, rfl⟩ := exists_field member
  have inside := Introspection.mem_types_of_type? found
  have spelled := Token.spells_exampleQuery kind (readable.fields t inside f field)
    (readable.arguments t inside f field)
    (fun t' (found' : i.type? f.type.baseName = some t') g member' =>
      readable.fields t' (Introspection.mem_types_of_type? found') g member')
    (exampleQuery kind f (i.type? f.type.baseName)).toList
  obtain ⟨ts, offset, lexed, document⟩ := spelled.ofText
  exact ⟨f.summary kind, Query.read_of_document lexed document, check_summary readable member⟩

end Catalog

/-- A field with a keyword as its name, that returns a union and takes a list and a number, the number only
if the default is not wanted. -/
def Introspection.searchable : Introspection where
  query := some "Query"
  types := [
    { kind := .object, name := some "Query", fields := some [
      { name := "on"
        arguments := [
          { name := "filters", type := .wrapped .nonNull none (.wrapped .list none
              (.base .inputObject (some "Filter"))) },
          { name := "limit", type := .wrapped .nonNull none (.base .scalar (some "Int")),
            default := some "10" }]
        type := .base .union (some "Result") }] },
    { kind := .union, name := some "Result" }]

theorem Catalog.search_passes_check :
    let c := Catalog.build "" Introspection.searchable
    ∃ o ∈ c.operations .query, o.sample = "query \x7b on(filters: [\x7b\x7d]) \x7b __typename \x7d \x7d" ∧
      ∃ q, Query.read o.sample = .ok q ∧ c.check q none = [] := by
  have readable : Introspection.searchable.Readable := by
    refine ⟨by decide, by decide, fun kind t found => ?_⟩
    cases kind with
    | query =>
      obtain rfl := Option.some.inj found
      decide
    | mutation => contradiction
    | subscription => contradiction
  obtain ⟨o, member, text⟩ : ∃ o ∈ (Catalog.build "" Introspection.searchable).operations .query,
      o.sample = "query \x7b on(filters: [\x7b\x7d]) \x7b __typename \x7d \x7d" := by
    refine ⟨_, List.mem_mergeSort.mpr List.mem_cons_self, ?_⟩
    decide
  exact ⟨o, member, text, Catalog.sample_passes_check readable "" .query o member⟩

end ApiAtlas.Graph
