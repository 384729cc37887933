import ApiAtlas.Document.Operation
import ApiAtlas.Proofs.Document.RoundTrip.Schema

/-! What requests and responses consist of, written and read. A definition that is written in place holds no
`$ref`, and so it is not taken for a reference when it is read again. -/
namespace ApiAtlas

open ApiAtlas.Tree Member

variable {α : Type}

def Plain (write : α → Json) : Prop := ∀ a, ∃ members, write a = .obj members ∧ ∀ m ∈ members, m.1 ≠ "$ref"

theorem plain_of_fields (names : List String) {write : α → Json} {fields : α → List (String × Option Json)}
    (other : "$ref" ∉ names) (writes : ∀ a, write a = .obj (present (fields a)))
    (ordered : ∀ a, (fields a).map Prod.fst = names) : Plain write := by
  refine fun a => ⟨_, writes a, fun m member ref => other ?_⟩
  have known := (names_present (fields a)).subset (List.mem_map_of_mem member)
  rwa [ordered a, ref] at known

namespace RefOr

variable {read : Tree → Option α} {write : α → Json}

theorem ofTree?_eq_some {t : Tree} {r : RefOr α} (given : ofTree? read t = some r) :
    (∃ path, r = .ref path) ∨ ∃ a, read t = some a ∧ r = .inline a := by
  unfold ofTree? at given
  split at given
  · split at given
    next path _ => exact .inl ⟨path, (Option.some.inj given).symm⟩
    next =>
      obtain ⟨a, taken, same⟩ := Option.map_eq_some_iff.mp given
      exact .inr ⟨a, taken, same.symm⟩
  · obtain ⟨a, taken, same⟩ := Option.map_eq_some_iff.mp given
    exact .inr ⟨a, taken, same.symm⟩

theorem solid_toJson (plain : Plain write) : Solid (toJson write) := by
  rintro (path | a)
  · rfl
  · obtain ⟨members, written, -⟩ := plain a
    rw [toJson, written]
    rfl

/-- Definitions and references in settled trees. -/
theorem lossless_ofTree? (fits : Lossless read write) (plain : Plain write) :
    Lossless (ofTree? read) (toJson write) := by
  refine .of_solid (solid_toJson plain) fun {t} finite r given => ?_
  rcases ofTree?_eq_some given with ⟨path, rfl⟩ | ⟨a, taken, rfl⟩
  · rw [toJson, ofJson, ofTree?, SchemaRef.refPath?_ref]
  · have again := fits.restores finite a taken
    obtain ⟨members, written, others⟩ := plain a
    rw [written, ofJson] at again
    rw [toJson, written, ofJson, ofTree?, SchemaRef.refPath?_ofMembers others, again]
    rfl

/-- Definitions and references in trees of any form. -/
theorem lossless_read? (fits : Lossless read write) (plain : Plain write) :
    Lossless (read? read) (toJson write) :=
  (lossless_ofTree? fits plain).settled (solid_toJson plain)

end RefOr

theorem lossless_location : Lossless Parameter.location? fun l => .str l.text :=
  lossless_oneOf (fun l => by cases l <;> simp [Location.all]) (by simp [Location.all, Location.text])

namespace Example

theorem toJson_eq (e : Example) : e.toJson = .obj (present
    [("summary", e.summary.map .str), ("description", e.description.map .str),
      ("value", e.value.map id), ("externalValue", e.externalValue.map .str)]) := by
  simp only [toJson, option_eq, present_append, List.cons_append, List.nil_append]

theorem lossless : Lossless ofTree? toJson := by
  refine .record (fun _ => rfl) toJson_eq (by simp [fieldNames]) (fun _ => rfl) fun finite given found => ?_
  simp only [↓steps_iff, Option.pure_def, Option.some.injEq] at given ⊢
  obtain ⟨summary, hasSummary, description, hasDescription, value, hasValue, externalValue,
    hasExternalValue, rfl⟩ := given
  exact ⟨summary, lossless_text.optional finite hasSummary (found.at 0 rfl),
    description, lossless_text.optional finite hasDescription (found.at 1 rfl),
    value, lossless_value.optional finite hasValue (found.at 2 rfl),
    externalValue, lossless_text.optional finite hasExternalValue (found.at 3 rfl), rfl⟩

theorem plain : Plain toJson :=
  plain_of_fields fieldNames (by simp [fieldNames]) toJson_eq fun _ => rfl

end Example

namespace MediaType

theorem toJson_eq (m : MediaType) : m.toJson = .obj (present
    [("schema", m.schema.map SchemaRef.toJson), ("example", m.sample.map id),
      ("examples", unlessEmpty (tabled (RefOr.toJson Example.toJson)) m.examples)]) := by
  simp only [toJson, option_eq, table_eq, present_append, List.cons_append, List.nil_append]

theorem lossless : Lossless ofTree? toJson := by
  refine .record (fun _ => rfl) toJson_eq (by simp [fieldNames]) (fun _ => rfl) fun finite given found => ?_
  simp only [↓steps_iff, Option.pure_def, Option.some.injEq] at given ⊢
  obtain ⟨schema, hasSchema, sample, hasSample, examples, hasExamples, rfl⟩ := given
  exact ⟨schema, SchemaRef.lossless_ofTree?.optional finite hasSchema (found.at 0 rfl),
    sample, lossless_value.optional finite hasSample (found.at 1 rfl),
    examples, (RefOr.lossless_ofTree? Example.lossless Example.plain).table.unlessEmpty finite hasExamples (found.at 2 rfl), rfl⟩

end MediaType

namespace Header

theorem toJson_eq (h : Header) : h.toJson = .obj (present
    [("description", h.description.map .str), ("required", some (.bool h.required)),
      ("deprecated", h.deprecated.map .bool), ("schema", h.schema.map SchemaRef.toJson),
      ("example", h.sample.map id)]) := by
  simp only [toJson, option_eq, always_eq, present_append, List.cons_append, List.nil_append]

theorem lossless : Lossless ofTree? toJson := by
  refine .record (fun _ => rfl) toJson_eq (by simp [fieldNames]) (fun _ => rfl) fun finite given found => ?_
  simp only [↓steps_iff, Option.pure_def, Option.some.injEq] at given ⊢
  obtain ⟨description, hasDescription, required, hasRequired, deprecated, hasDeprecated, schema,
    hasSchema, sample, hasSample, rfl⟩ := given
  exact ⟨description, lossless_text.optional finite hasDescription (found.at 0 rfl),
    required, lossless_bool.defaulted finite rfl hasRequired (found.at 1 rfl),
    deprecated, lossless_bool.optional finite hasDeprecated (found.at 2 rfl),
    schema, SchemaRef.lossless_ofTree?.optional finite hasSchema (found.at 3 rfl),
    sample, lossless_value.optional finite hasSample (found.at 4 rfl), rfl⟩

theorem plain : Plain toJson :=
  plain_of_fields fieldNames (by simp [fieldNames]) toJson_eq fun _ => rfl

end Header

namespace Parameter

theorem toJson_eq (p : Parameter) : p.toJson = .obj (present
    [("name", some (.str p.name)), ("in", some (.str p.location.text)),
      ("description", p.description.map .str), ("required", some (.bool p.required)),
      ("deprecated", p.deprecated.map .bool), ("schema", p.schema.map SchemaRef.toJson),
      ("style", p.style.map .str), ("explode", p.explode.map .bool), ("example", p.sample.map id),
      ("examples", unlessEmpty (tabled (RefOr.toJson Example.toJson)) p.examples)]) := by
  simp only [toJson, option_eq, always_eq, table_eq, present_append, List.cons_append, List.nil_append]

theorem lossless : Lossless ofTree? toJson := by
  refine .record (fun _ => rfl) toJson_eq (by simp [fieldNames]) (fun _ => rfl) fun finite given found => ?_
  simp only [↓steps_iff, Option.pure_def, Option.some.injEq] at given ⊢
  obtain ⟨name, hasName, location, hasLocation, description, hasDescription, required, hasRequired,
    deprecated, hasDeprecated, schema, hasSchema, style, hasStyle, explode, hasExplode, sample, hasSample,
    examples, hasExamples, rfl⟩ := given
  exact ⟨name, lossless_text.required finite hasName (found.at 0 rfl),
    location, lossless_location.required finite hasLocation (found.at 1 rfl),
    description, lossless_text.optional finite hasDescription (found.at 2 rfl),
    required, lossless_bool.defaulted finite rfl hasRequired (found.at 3 rfl),
    deprecated, lossless_bool.optional finite hasDeprecated (found.at 4 rfl),
    schema, SchemaRef.lossless_ofTree?.optional finite hasSchema (found.at 5 rfl),
    style, lossless_text.optional finite hasStyle (found.at 6 rfl),
    explode, lossless_bool.optional finite hasExplode (found.at 7 rfl),
    sample, lossless_value.optional finite hasSample (found.at 8 rfl),
    examples, (RefOr.lossless_ofTree? Example.lossless Example.plain).table.unlessEmpty finite hasExamples (found.at 9 rfl), rfl⟩

theorem plain : Plain toJson :=
  plain_of_fields fieldNames (by simp [fieldNames]) toJson_eq fun _ => rfl

end Parameter

namespace RequestBody

theorem toJson_eq (b : RequestBody) : b.toJson = .obj (present
    [("description", b.description.map .str),
      ("content", some (.obj (b.content.map fun (k, m) => (k, m.toJson)))),
      ("required", some (.bool b.required))]) := by
  simp only [toJson, option_eq, always_eq, present_append, List.cons_append, List.nil_append]

theorem lossless : Lossless ofTree? toJson := by
  refine .record (fun _ => rfl) toJson_eq (by simp) (fun _ => rfl) fun finite given found => ?_
  simp only [↓steps_iff, Option.pure_def, Option.some.injEq] at given ⊢
  obtain ⟨description, hasDescription, content, hasContent, required, hasRequired, rfl⟩ := given
  exact ⟨description, lossless_text.optional finite hasDescription (found.at 0 rfl),
    content, MediaType.lossless.table.defaulted finite rfl hasContent (found.at 1 rfl),
    required, lossless_bool.defaulted finite rfl hasRequired (found.at 2 rfl), rfl⟩

theorem plain : Plain toJson :=
  plain_of_fields ["description", "content", "required"] (by simp) toJson_eq fun _ => rfl

end RequestBody

namespace Response

theorem toJson_eq (r : Response) : r.toJson = .obj (present
    [("description", some (.str r.description)),
      ("content", unlessEmpty (tabled MediaType.toJson) r.content),
      ("headers", unlessEmpty (tabled (RefOr.toJson Header.toJson)) r.headers)]) := by
  simp only [toJson, always_eq, table_eq, present_append, List.cons_append, List.nil_append]

theorem lossless : Lossless ofTree? toJson := by
  refine .record (fun _ => rfl) toJson_eq (by simp) (fun _ => rfl) fun finite given found => ?_
  simp only [↓steps_iff, Option.pure_def, Option.some.injEq] at given ⊢
  obtain ⟨description, hasDescription, content, hasContent, headers, hasHeaders, rfl⟩ := given
  exact ⟨description, lossless_text.defaulted finite rfl hasDescription (found.at 0 rfl),
    content, MediaType.lossless.table.unlessEmpty finite hasContent (found.at 1 rfl),
    headers, (RefOr.lossless_ofTree? Header.lossless Header.plain).table.unlessEmpty finite hasHeaders (found.at 2 rfl), rfl⟩

theorem plain : Plain toJson :=
  plain_of_fields ["description", "content", "headers"] (by simp) toJson_eq fun _ => rfl

end Response

end ApiAtlas
