import ApiAtlas.Proofs.Tree.Record

/-! Schemas that are written and read. The keywords without schemas are fields like those of other records;
the keywords with schemas are read again by induction on the size of the tree, in which they stand deeper. -/
namespace ApiAtlas

open ApiAtlas.Tree Member

/-! The values of single keywords. -/

theorem lossless_typeName : Lossless typeName? fun n => .str n.text :=
  lossless_oneOf (fun n => by cases n <;> simp [TypeName.all]) (by simp [TypeName.all, TypeName.text])

theorem lossless_typeSpec : Lossless typeSpec? SchemaRef.typeJson := by
  have names := lossless_typeName.list
  refine .of_solid (fun a => by cases a <;> rfl) fun {t} finite spec given => ?_
  unfold typeSpec? at given
  split at given
  next n one =>
    obtain rfl := Option.some.inj given
    simp only [typeSpec?, SchemaRef.typeJson, lossless_typeName.restores finite n one]
  next =>
    obtain ⟨ns, many, rfl⟩ := Option.map_eq_some_iff.mp given
    have again := names.restores finite ns many
    have written : SchemaRef.typeJson (.many ns) = listed (fun n => .str n.text) ns := by
      simp [SchemaRef.typeJson, Json.strs, listed]
    have notOne : typeName? (ofJson (listed (fun n => .str n.text) ns)) = none := rfl
    rw [written, typeSpec?, notOne]
    simp only [again, Option.map_some]

theorem lossless_exclusiveBound : Lossless exclusiveBound? SchemaRef.boundJson := by
  have cases_of {t : Tree} {b : ExclusiveBound} (given : exclusiveBound? t = some b) :
      (∃ f, t = .bool f ∧ b = .flag f) ∨ ∃ x, double? t = some x ∧ b = .value x := by
    unfold exclusiveBound? at given
    split at given
    next f => exact .inl ⟨f, rfl, (Option.some.inj given).symm⟩
    next =>
      obtain ⟨x, number, same⟩ := Option.map_eq_some_iff.mp given
      exact .inr ⟨x, number, same.symm⟩
  constructor
  · intro t finite b given
    rcases cases_of given with ⟨f, -, rfl⟩ | ⟨x, number, rfl⟩
    · rfl
    · rw [SchemaRef.boundJson, Json.real_of_finite (double?_eq_some finite number)]
      rfl
  · intro t b finite given null
    rcases cases_of given with ⟨f, -, rfl⟩ | ⟨x, number, rfl⟩
    · cases null
    · rw [SchemaRef.boundJson, Json.real_of_finite (double?_eq_some finite number)] at null
      cases null

namespace SchemaRef

/-! Schemas as they are written. -/

def writeAdditional : AdditionalSpec SchemaRef → Json
  | .flag b => .bool b
  | .schema s => s.toJson

def fields (s : Keywords) (parts : Subschemas SchemaRef) : List (String × Option Json) :=
  [("type", s.type.map typeJson), ("format", s.format.map .str), ("title", s.title.map .str),
    ("description", s.description.map .str), ("default", s.default.map id),
    ("nullable", s.nullable.map .bool),
    ("properties", unlessEmpty (tabled toJson) parts.properties),
    ("required", unlessEmpty (listed .str) s.required),
    ("additionalProperties", parts.additionalProperties.map writeAdditional),
    ("items", parts.items.map toJson),
    ("allOf", unlessEmpty (listed toJson) parts.allOf),
    ("oneOf", unlessEmpty (listed toJson) parts.oneOf),
    ("anyOf", unlessEmpty (listed toJson) parts.anyOf), ("not", parts.not.map toJson),
    ("enum", unlessEmpty (listed id) s.enum), ("minimum", s.minimum.map .real),
    ("maximum", s.maximum.map .real), ("exclusiveMinimum", s.exclusiveMinimum.map boundJson),
    ("exclusiveMaximum", s.exclusiveMaximum.map boundJson), ("multipleOf", s.multipleOf.map .real),
    ("minLength", s.minLength.map .nat), ("maxLength", s.maxLength.map .nat),
    ("pattern", s.pattern.map .str), ("minItems", s.minItems.map .nat), ("maxItems", s.maxItems.map .nat),
    ("uniqueItems", s.uniqueItems.map .bool), ("readOnly", s.readOnly.map .bool),
    ("writeOnly", s.writeOnly.map .bool), ("const", s.const.map id), ("example", s.sample.map id),
    ("deprecated", s.deprecated.map .bool)]

theorem writtenTable_eq (entries : List (String × SchemaRef)) :
    writtenTable entries = entries.map fun (k, s) => (k, toJson s) := by
  induction entries with
  | nil => rfl
  | cons p rest ih => rw [writtenTable, ih, List.map_cons]

theorem writtenList_eq (schemas : List SchemaRef) : writtenList schemas = schemas.map toJson := by
  induction schemas with
  | nil => rfl
  | cons s rest ih => rw [writtenList, ih, List.map_cons]

theorem option_additional (name : String) (a : Option (AdditionalSpec SchemaRef)) :
    option name additionalJson (writtenAdditional a) = present [(name, a.map writeAdditional)] := by
  match a with
  | none => rfl
  | some (.flag b) => rfl
  | some (.schema s) => rfl

theorem option_schema (name : String) (o : Option SchemaRef) :
    option name id (writtenOption o) = present [(name, o.map toJson)] := by
  cases o <;> rfl

theorem list_schemas (name : String) (schemas : List SchemaRef) :
    list name id (writtenList schemas) = present [(name, unlessEmpty (listed toJson) schemas)] := by
  rw [writtenList_eq]
  cases schemas with
  | nil => rfl
  | cons s rest => simp [Member.list, unlessEmpty, present, listed]

theorem table_schemas (name : String) (entries : List (String × SchemaRef)) :
    table name id (writtenTable entries) = present [(name, unlessEmpty (tabled toJson) entries)] := by
  rw [writtenTable_eq]
  cases entries with
  | nil => rfl
  | cons s rest => simp [Member.table, unlessEmpty, present, tabled]

theorem toJson_inline (s : Keywords) (parts : Subschemas SchemaRef) :
    toJson (.inline s parts) = .obj (present (fields s parts)) := by
  obtain ⟨properties, additional, items, allOf, oneOf, anyOf, not⟩ := parts
  rw [toJson, written]
  delta keywordMembers fields
  simp only [option_schema, list_schemas, table_schemas, option_additional]
  simp only [option_eq, list_eq, present_append, List.cons_append, List.nil_append]

/-! Schemas as they are read. -/

def Part.of (t : Tree) : Part :=
  ⟨t, fun _ => ofTree? t, fun _ => listOf? t, fun _ => tableOf? t⟩

theorem parts_eq (members : List (Tree × Tree)) :
    parts members = members.map fun m => (m.1, Part.of m.2) := by
  induction members with
  | nil => rfl
  | cons m rest ih => rw [parts, ih, List.map_cons, Part.of]

theorem fields?_map {α β : Type} (g : α → β) (names : List String) (members : List (Tree × α)) :
    fields? names (members.map fun m => (m.1, g m.2))
      = (fields? names members).map fun found => found.map fun f => (f.1, g f.2) := by
  induction members with
  | nil => rfl
  | cons m rest ih =>
    obtain ⟨key, a⟩ := m
    rw [List.map_cons, fields?, fields?, ih]
    cases fields? names rest with
    | none => rfl
    | some found =>
      simp only [Option.map_some, Option.bind_eq_bind, Option.bind_some, Table.lookup_map, Option.isSome_map]
      cases field? names key with
      | none => rfl
      | some field =>
        cases field with
        | none => rfl
        | some name =>
          simp only [Option.bind_some]
          split <;> rfl

section Subschemas

variable {kind : Tree → Prop} {given found : List (String × Tree)} {name : String}

/-- The fields of a record with the ways to read schemas in them. -/
def withParts (fields : List (String × Tree)) : List (String × Part) :=
  fields.map fun f => (f.1, Part.of f.2)

theorem tree_withParts (fields : List (String × Tree)) :
    ((withParts fields).map fun f => (f.1, f.2.tree)) = fields := by
  simp [withParts, Part.of, Function.comp_def]

theorem optional_withParts (fields : List (String × Tree)) (name : String) :
    Part.optional (withParts fields) name = Tree.optional fields name ofTree? := by
  rw [Part.optional, Tree.optional, withParts, Table.lookup_map]
  cases fields.lookup name <;> rfl

theorem defaulted_withParts {α : Type} (fields : List (String × Tree)) (name : String) (default : α)
    (read : Part → Option α) :
    Tree.defaulted (withParts fields) name default read
      = Tree.defaulted fields name default fun t => read (Part.of t) := by
  rw [Tree.defaulted, Tree.defaulted, withParts, Table.lookup_map]
  cases fields.lookup name <;> rfl

theorem listOf?_list (tag : Option String) (items : List Tree) :
    listOf? (.list tag items) = list? ofTree? (.list tag items) := by
  rw [listOf?, list?]
  induction items with
  | nil => rfl
  | cons t rest ih => rw [items?, ih, List.mapM_cons]

theorem tableOf?_record (tag : Option String) (members : List (Tree × Tree)) :
    tableOf? (.record tag members) = table? ofTree? (.record tag members) := by
  rw [tableOf?, table?]
  congr 1
  induction members with
  | nil => rfl
  | cons m rest ih => simp [pairs?, ih, Option.bind_assoc]

theorem lossless_listOf (closed : Closed kind) (fits : LosslessOn kind ofTree? toJson) :
    LosslessOn kind listOf? (listed toJson) := by
  refine .of_solid (fun _ => rfl) fun {t} inside as given => ?_
  cases t with
  | list tag items =>
    rw [listOf?_list] at given
    have again := (LosslessOn.list closed fits).restores inside as given
    rw [listed, ofJson_arr] at again ⊢
    rwa [listOf?_list]
  | _ => cases given

theorem lossless_tableOf (closed : Closed kind) (fits : LosslessOn kind ofTree? toJson) :
    LosslessOn kind tableOf? (tabled toJson) := by
  refine .of_solid (fun _ => rfl) fun {t} inside entries given => ?_
  cases t with
  | record tag members =>
    rw [tableOf?_record] at given
    have again := (LosslessOn.table closed fits).restores inside entries given
    rw [tabled, ofJson_obj] at again ⊢
    rwa [tableOf?_record]
  | _ => cases given

theorem solid_toJson : Solid toJson := fun s => by cases s <;> rfl

/-- A written schema is a record. -/
theorem ofJson_toJson (s : SchemaRef) : ∃ members, ofJson s.toJson = .record none members := by
  cases s with
  | ref path => exact ⟨_, ofJson_obj _⟩
  | inline keywords parts => exact ⟨_, by rw [toJson_inline, ofJson_obj]⟩

theorem additional_again (fits : LosslessOn kind ofTree? toJson) (inside : ∀ f ∈ given, kind f.2)
    {a : Option (AdditionalSpec SchemaRef)} (taken : Part.additional (withParts given) name = some a)
    (again : found.lookup name = (a.map writeAdditional).map ofJson) :
    Part.additional (withParts found) name = some a := by
  rw [Part.additional, withParts, Table.lookup_map] at taken ⊢
  rw [again]
  match a with
  | none => rfl
  | some (.flag b) => rfl
  | some (.schema s) =>
    obtain ⟨t, stands, read⟩ : ∃ t, given.lookup name = some t ∧ ofTree? t = some s := by
      cases stands : given.lookup name with
      | none =>
        rw [stands] at taken
        cases taken
      | some t =>
        refine ⟨t, rfl, ?_⟩
        rw [stands] at taken
        cases t with
        | null | bool b => simp [Part.of] at taken
        | _ => simpa [Part.of] using taken
    have again := fits.restores (inside _ (Table.mem_of_get? stands)) s read
    obtain ⟨members, written⟩ := ofJson_toJson s
    rw [written] at again
    simp [writeAdditional, written, Part.of, again]

/-- The schemas in a record stand in smaller trees. -/
theorem closed_smaller (n : Nat) : Closed fun t => t.isFinite = true ∧ sizeOf t < n := by
  constructor
  · intro tag items t ⟨finite, small⟩ member
    have smaller : sizeOf t < sizeOf items := List.sizeOf_lt_of_mem member
    simp only [list.sizeOf_spec] at small
    exact ⟨closed_finite.item finite member, by omega⟩
  · intro tag members m ⟨finite, small⟩ member
    have smaller : sizeOf m < sizeOf members := List.sizeOf_lt_of_mem member
    have value : sizeOf m.2 < sizeOf m := by cases m; simp +arith
    simp only [record.sizeOf_spec] at small
    exact ⟨closed_finite.value finite member, by omega⟩

theorem refPath?_ofMembers {members : List (String × Json)} (plain : ∀ m ∈ members, m.1 ≠ "$ref") :
    refPath? (ofMembers members) = none := by
  have none_known : fields? ["$ref"] (ofMembers members) = some [] := by
    induction members with
    | nil => rfl
    | cons m rest ih =>
      obtain ⟨first, others⟩ := List.forall_mem_cons.mp plain
      simp [ofMembers, fields?, ih others, field?, first]
  rw [refPath?, none_known]
  rfl

theorem refPath?_ref (path : String) : refPath? (ofMembers [("$ref", .str path)]) = some path := by
  simp [refPath?, ofMembers, ofJson, fields?, field?, Tree.required, text?]

end Subschemas

end SchemaRef

structure Keywords.Taken (f : List (String × Tree)) (s : Keywords) : Prop where
  type : Tree.optional f "type" typeSpec? = some s.type
  format : Tree.optional f "format" text? = some s.format
  title : Tree.optional f "title" text? = some s.title
  description : Tree.optional f "description" text? = some s.description
  default : Tree.optional f "default" toJson? = some s.default
  nullable : Tree.optional f "nullable" bool? = some s.nullable
  required : Tree.defaulted f "required" [] (list? text?) = some s.required
  enum : Tree.defaulted f "enum" [] (list? toJson?) = some s.enum
  minimum : Tree.optional f "minimum" double? = some s.minimum
  maximum : Tree.optional f "maximum" double? = some s.maximum
  exclusiveMinimum : Tree.optional f "exclusiveMinimum" exclusiveBound? = some s.exclusiveMinimum
  exclusiveMaximum : Tree.optional f "exclusiveMaximum" exclusiveBound? = some s.exclusiveMaximum
  multipleOf : Tree.optional f "multipleOf" double? = some s.multipleOf
  minLength : Tree.optional f "minLength" word? = some s.minLength
  maxLength : Tree.optional f "maxLength" word? = some s.maxLength
  pattern : Tree.optional f "pattern" text? = some s.pattern
  minItems : Tree.optional f "minItems" word? = some s.minItems
  maxItems : Tree.optional f "maxItems" word? = some s.maxItems
  uniqueItems : Tree.optional f "uniqueItems" bool? = some s.uniqueItems
  readOnly : Tree.optional f "readOnly" bool? = some s.readOnly
  writeOnly : Tree.optional f "writeOnly" bool? = some s.writeOnly
  const : Tree.optional f "const" toJson? = some s.const
  sample : Tree.optional f "example" toJson? = some s.sample
  deprecated : Tree.optional f "deprecated" bool? = some s.deprecated

open SchemaRef in
structure Subschemas.Taken (f : List (String × Tree)) (s : Subschemas SchemaRef) : Prop where
  properties : Tree.defaulted f "properties" [] tableOf? = some s.properties
  additionalProperties : Part.additional (withParts f) "additionalProperties" = some s.additionalProperties
  items : Tree.optional f "items" ofTree? = some s.items
  allOf : Tree.defaulted f "allOf" [] listOf? = some s.allOf
  oneOf : Tree.defaulted f "oneOf" [] listOf? = some s.oneOf
  anyOf : Tree.defaulted f "anyOf" [] listOf? = some s.anyOf
  not : Tree.optional f "not" ofTree? = some s.not

/-- The keywords without schemas are taken again from what is written for them. -/
theorem Keywords.Taken.again {f g : List (String × Tree)} {s : Keywords} {parts : Subschemas SchemaRef}
    (taken : s.Taken f) (finite : ∀ m ∈ f, m.2.isFinite = true)
    (found : Found (SchemaRef.fields s parts) g) : s.Taken g where
  type := lossless_typeSpec.optional finite taken.type (found.at 0 rfl)
  format := lossless_text.optional finite taken.format (found.at 1 rfl)
  title := lossless_text.optional finite taken.title (found.at 2 rfl)
  description := lossless_text.optional finite taken.description (found.at 3 rfl)
  default := lossless_value.optional finite taken.default (found.at 4 rfl)
  nullable := lossless_bool.optional finite taken.nullable (found.at 5 rfl)
  required := lossless_text.list.unlessEmpty finite taken.required (found.at 7 rfl)
  enum := lossless_value.list.unlessEmpty finite taken.enum (found.at 14 rfl)
  minimum := lossless_double.optional finite taken.minimum (found.at 15 rfl)
  maximum := lossless_double.optional finite taken.maximum (found.at 16 rfl)
  exclusiveMinimum := lossless_exclusiveBound.optional finite taken.exclusiveMinimum (found.at 17 rfl)
  exclusiveMaximum := lossless_exclusiveBound.optional finite taken.exclusiveMaximum (found.at 18 rfl)
  multipleOf := lossless_double.optional finite taken.multipleOf (found.at 19 rfl)
  minLength := lossless_word.optional finite taken.minLength (found.at 20 rfl)
  maxLength := lossless_word.optional finite taken.maxLength (found.at 21 rfl)
  pattern := lossless_text.optional finite taken.pattern (found.at 22 rfl)
  minItems := lossless_word.optional finite taken.minItems (found.at 23 rfl)
  maxItems := lossless_word.optional finite taken.maxItems (found.at 24 rfl)
  uniqueItems := lossless_bool.optional finite taken.uniqueItems (found.at 25 rfl)
  readOnly := lossless_bool.optional finite taken.readOnly (found.at 26 rfl)
  writeOnly := lossless_bool.optional finite taken.writeOnly (found.at 27 rfl)
  const := lossless_value.optional finite taken.const (found.at 28 rfl)
  sample := lossless_value.optional finite taken.sample (found.at 29 rfl)
  deprecated := lossless_bool.optional finite taken.deprecated (found.at 30 rfl)

/-- The keywords with schemas are taken again if schemas are. -/
theorem Subschemas.Taken.again {kind : Tree → Prop} (closed : Closed kind)
    (fits : LosslessOn kind SchemaRef.ofTree? SchemaRef.toJson) {f g : List (String × Tree)} {s : Keywords}
    {parts : Subschemas SchemaRef} (taken : parts.Taken f) (inside : ∀ m ∈ f, kind m.2)
    (found : Found (SchemaRef.fields s parts) g) : parts.Taken g where
  properties := (SchemaRef.lossless_tableOf closed fits).unlessEmpty inside taken.properties (found.at 6 rfl)
  additionalProperties :=
    SchemaRef.additional_again fits inside taken.additionalProperties (found.at 8 rfl)
  items := fits.optional inside taken.items (found.at 9 rfl)
  allOf := (SchemaRef.lossless_listOf closed fits).unlessEmpty inside taken.allOf (found.at 10 rfl)
  oneOf := (SchemaRef.lossless_listOf closed fits).unlessEmpty inside taken.oneOf (found.at 11 rfl)
  anyOf := (SchemaRef.lossless_listOf closed fits).unlessEmpty inside taken.anyOf (found.at 12 rfl)
  not := fits.optional inside taken.not (found.at 13 rfl)

namespace SchemaRef

theorem ofParts?_eq_some_iff {members : List (Tree × Tree)} {s : Schema} :
    ofParts? (parts members) = some s ↔
      ∃ f, fields? keywordNames members = some f ∧ s.keywords.Taken f ∧ s.parts.Taken f := by
  rw [parts_eq, ofParts?, fields?_map]
  constructor
  · intro taken
    obtain ⟨_, mapped, taken⟩ := Option.bind_eq_some_iff.mp taken
    obtain ⟨f, known, rfl⟩ := Option.map_eq_some_iff.mp mapped
    rw [← withParts] at taken
    extract_lets plain text bool word double value bound many at taken
    have same : plain = f := tree_withParts f
    clear_value plain
    subst same
    obtain ⟨_, type, taken⟩ := Option.bind_eq_some_iff.mp taken
    obtain ⟨_, format, taken⟩ := Option.bind_eq_some_iff.mp taken
    obtain ⟨_, title, taken⟩ := Option.bind_eq_some_iff.mp taken
    obtain ⟨_, description, taken⟩ := Option.bind_eq_some_iff.mp taken
    obtain ⟨_, default, taken⟩ := Option.bind_eq_some_iff.mp taken
    obtain ⟨_, nullable, taken⟩ := Option.bind_eq_some_iff.mp taken
    obtain ⟨_, required, taken⟩ := Option.bind_eq_some_iff.mp taken
    obtain ⟨_, enum, taken⟩ := Option.bind_eq_some_iff.mp taken
    obtain ⟨_, minimum, taken⟩ := Option.bind_eq_some_iff.mp taken
    obtain ⟨_, maximum, taken⟩ := Option.bind_eq_some_iff.mp taken
    obtain ⟨_, exclusiveMinimum, taken⟩ := Option.bind_eq_some_iff.mp taken
    obtain ⟨_, exclusiveMaximum, taken⟩ := Option.bind_eq_some_iff.mp taken
    obtain ⟨_, multipleOf, taken⟩ := Option.bind_eq_some_iff.mp taken
    obtain ⟨_, minLength, taken⟩ := Option.bind_eq_some_iff.mp taken
    obtain ⟨_, maxLength, taken⟩ := Option.bind_eq_some_iff.mp taken
    obtain ⟨_, pattern, taken⟩ := Option.bind_eq_some_iff.mp taken
    obtain ⟨_, minItems, taken⟩ := Option.bind_eq_some_iff.mp taken
    obtain ⟨_, maxItems, taken⟩ := Option.bind_eq_some_iff.mp taken
    obtain ⟨_, uniqueItems, taken⟩ := Option.bind_eq_some_iff.mp taken
    obtain ⟨_, readOnly, taken⟩ := Option.bind_eq_some_iff.mp taken
    obtain ⟨_, writeOnly, taken⟩ := Option.bind_eq_some_iff.mp taken
    obtain ⟨_, const, taken⟩ := Option.bind_eq_some_iff.mp taken
    obtain ⟨_, sample, taken⟩ := Option.bind_eq_some_iff.mp taken
    obtain ⟨_, deprecated, taken⟩ := Option.bind_eq_some_iff.mp taken
    obtain ⟨_, properties, taken⟩ := Option.bind_eq_some_iff.mp taken
    obtain ⟨_, additionalProperties, taken⟩ := Option.bind_eq_some_iff.mp taken
    obtain ⟨_, items, taken⟩ := Option.bind_eq_some_iff.mp taken
    obtain ⟨_, allOf, taken⟩ := Option.bind_eq_some_iff.mp taken
    obtain ⟨_, oneOf, taken⟩ := Option.bind_eq_some_iff.mp taken
    obtain ⟨_, anyOf, taken⟩ := Option.bind_eq_some_iff.mp taken
    obtain ⟨_, not, taken⟩ := Option.bind_eq_some_iff.mp taken
    obtain rfl := Option.some.inj taken
    refine ⟨plain, known, ⟨type, format, title, description, default, nullable, required, enum, minimum,
      maximum, exclusiveMinimum, exclusiveMaximum, multipleOf, minLength, maxLength, pattern, minItems,
      maxItems, uniqueItems, readOnly, writeOnly, const, sample, deprecated⟩, ?_⟩
    exact ⟨(defaulted_withParts ..).symm.trans properties, additionalProperties,
      (optional_withParts ..).symm.trans items, (defaulted_withParts ..).symm.trans allOf,
      (defaulted_withParts ..).symm.trans oneOf, (defaulted_withParts ..).symm.trans anyOf,
      (optional_withParts ..).symm.trans not⟩
  · rintro ⟨f, known, k, p⟩
    rw [known, Option.map_some, ← withParts]
    refine Option.bind_eq_some_iff.mpr ⟨withParts f, rfl, ?_⟩
    simp only [tree_withParts, defaulted_withParts, optional_withParts, Part.of]
    rw [k.type, k.format, k.title, k.description, k.default, k.nullable, k.required, k.enum, k.minimum,
      k.maximum, k.exclusiveMinimum, k.exclusiveMaximum, k.multipleOf, k.minLength, k.maxLength,
      k.pattern, k.minItems, k.maxItems, k.uniqueItems, k.readOnly, k.writeOnly, k.const, k.sample,
      k.deprecated, p.properties, p.additionalProperties, p.items, p.allOf, p.oneOf, p.anyOf, p.not]
    rfl

theorem names_ne_ref {s : Keywords} {parts : Subschemas SchemaRef} :
    ∀ m ∈ present (fields s parts), m.1 ≠ "$ref" := by
  have known : ∀ name ∈ keywordNames, name ≠ "$ref" := by decide
  intro m member
  exact known m.1 ((names_present (fields s parts)).subset (List.mem_map_of_mem member))

/-- A schema is read again if the schemas in smaller trees are. -/
theorem restores_ofTree? {t : Tree} (finite : t.isFinite = true)
    (fits : LosslessOn (fun u => u.isFinite = true ∧ sizeOf u < sizeOf t) ofTree? toJson) :
    Restores ofTree? toJson t := by
  intro a given
  cases t with
  | record tag members =>
    rw [ofTree?] at given
    split at given
    next path ref =>
      obtain rfl := Option.some.inj given
      rw [toJson, ofJson, ofTree?, refPath?_ref]
    next =>
      obtain ⟨⟨keywords, parts⟩, taken, rfl⟩ := Option.map_eq_some_iff.mp given
      obtain ⟨f, known, k, p⟩ := ofParts?_eq_some_iff.mp taken
      have inside : ∀ m ∈ f, m.2.isFinite = true ∧ sizeOf m.2 < sizeOf (Tree.record tag members) := by
        intro m member
        obtain ⟨key, stands⟩ := mem_of_fields? known member
        have smaller := List.sizeOf_lt_of_mem stands
        simp only [Prod.mk.sizeOf_spec, record.sizeOf_spec] at smaller ⊢
        exact ⟨closed_finite.value finite stands, by omega⟩
      have ordered : (fields keywords parts).map Prod.fst = keywordNames := rfl
      obtain ⟨g, again, found⟩ := fields?_present (by decide) ordered
      have whole := ofParts?_eq_some_iff.mpr
        ⟨g, again, k.again (fun m member => (inside m member).1) found,
          p.again (closed_smaller _) fits inside found⟩
      rw [toJson_inline, ofJson, ofTree?, refPath?_ofMembers names_ne_ref]
      simp only [whole, Option.map_some]
  | _ => cases given

/-- Schemas in settled trees. -/
theorem lossless_ofTree? : Lossless ofTree? toJson := by
  refine .of_solid solid_toJson fun {t} finite => ?_
  induction size : sizeOf t using Nat.strong_induction_on generalizing t with
  | _ n smaller =>
    subst size
    exact restores_ofTree? finite
      (.of_solid solid_toJson fun inside => smaller _ inside.2 inside.1 rfl)

/-- Schemas in trees of any form. -/
theorem lossless_read? : Lossless read? toJson := lossless_ofTree?.settled solid_toJson

end SchemaRef
end ApiAtlas
