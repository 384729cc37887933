import ApiAtlas.Shape

/-!
Lowering of schemas to shapes. The keywords of a schema become a node; `allOf`, `anyOf`, `oneOf` and
`not` become parts of a conjunction with it, in that order. A node that says nothing, or only
describes, is left out of a conjunction, and a conjunction of one part that is no `allOf` is that
part. A reference that is left in a schema accepts every value.
-/
namespace ApiAtlas

namespace Keywords

/-- The declared type and whether a type list admits null. -/
def declaredType (k : Keywords) : Option TypeName × Bool :=
  match k.type with
  | none => (none, false)
  | some (.one t) => (some t, false)
  | some (.many ts) =>
    let hasNull := ts.contains .null
    match ts.find? (· ≠ .null) with
    | some t => (some t, hasNull)
    | none => (if hasNull then some .null else none, hasNull)

/-- The listed values; a constant counts as a list of one if there is no other. -/
def allowedValues (k : Keywords) : List Json :=
  if k.enum.isEmpty then k.const.toList else k.enum

/-- The type of texts with a known format. -/
def formatType (format : String) : Option TypeName :=
  if ["int32", "int64"].contains format then some .integer
  else if ["float", "double"].contains format then some .number
  else if ["email", "uri", "url", "uuid", "date", "date-time", "time", "hostname", "ipv4", "ipv6",
      "byte", "binary", "password"].contains format then some .string
  else none

/-- The type of a listed value, for the types that an enumeration implies. -/
def valueType : Json → Option TypeName
  | .str _ => some .string
  | .bool _ => some .boolean
  | .num (.whole _) => some .integer
  | .num (.real _) => some .number
  | _ => none

/-- The type implied by members, items, format or the first listed value. -/
def impliedType (k : Keywords) (hasMembers hasItems : Bool) : Option TypeName :=
  if hasMembers then some .object
  else if hasItems then some .array
  else match k.format.bind formatType with
    | some t => some t
    | none => k.allowedValues.head?.bind valueType

/-- The lower bound and whether it is exclusive; of two bounds the stricter one. -/
def lowerBound (inclusive : Option Binary64) (exclusive : Option ExclusiveBound) :
    Option Binary64 × Bool :=
  match exclusive with
  | none => (inclusive, false)
  | some (.flag b) => (inclusive, b && inclusive.isSome)
  | some (.value e) =>
    match inclusive with
    | some m => if e.lt m then (some m, false) else (some e, true)
    | none => (some e, true)

/-- The upper bound and whether it is exclusive. -/
def upperBound (inclusive : Option Binary64) (exclusive : Option ExclusiveBound) :
    Option Binary64 × Bool :=
  match exclusive with
  | none => (inclusive, false)
  | some (.flag b) => (inclusive, b && inclusive.isSome)
  | some (.value e) =>
    match inclusive with
    | some m => if m.lt e then (some m, false) else (some e, true)
    | none => (some e, true)

def facets (k : Keywords) (hasMembers hasItems : Bool) : Facets :=
  let (declared, admitsNull) := k.declaredType
  let (minimum, exclusiveMinimum) := lowerBound k.minimum k.exclusiveMinimum
  let (maximum, exclusiveMaximum) := upperBound k.maximum k.exclusiveMaximum
  { type := declared.or (k.impliedType hasMembers hasItems)
    nullable := k.nullable.getD false || admitsNull
    format := k.format
    description := k.description.or k.title
    enum := k.allowedValues
    default := k.default
    sample := k.sample
    minimum, maximum, exclusiveMinimum, exclusiveMaximum
    multipleOf := k.multipleOf
    minLength := k.minLength
    maxLength := k.maxLength
    pattern := k.pattern
    minItems := k.minItems
    maxItems := k.maxItems
    uniqueItems := k.uniqueItems.getD false
    required := k.required
    readOnly := k.readOnly.getD false
    writeOnly := k.writeOnly.getD false }

end Keywords

namespace Shape

/-- Whether a node says nothing, its description apart. -/
def saysNothing (f : Facets) (p : NodeParts Shape) : Bool :=
  { f with description := none } == ({} : Facets) && p.items.isNone && p.properties.isEmpty &&
    (match p.additional with | .allowed => true | _ => false)

/-- Joins a node with the parts of its composition. -/
def join (f : Facets) (p : NodeParts Shape) (alls anys ones : List Shape)
    (negated : Option Shape) : Shape :=
  let parts := alls
    ++ (if anys.isEmpty then [] else [.anyOf anys])
    ++ (if ones.isEmpty then [] else [.oneOf ones])
    ++ (match negated with | some s => [.not s] | none => [])
  match parts with
  | [] => .simple f p
  | first :: rest =>
    if !saysNothing f p then .allOf (.simple f p :: first :: rest)
    else if rest.isEmpty && alls.isEmpty then first
    else .allOf (first :: rest)

mutual
def ofRef : SchemaRef → Shape
  | .ref _ => any
  | .inline k parts => ofParts k parts
def ofParts (k : Keywords) : Subschemas SchemaRef → Shape
  | ⟨properties, additional, items, alls, ones, anys, negated⟩ =>
    join (k.facets (!properties.isEmpty || additional.isSome) items.isSome)
      ⟨ofOption items, ofTable properties, ofAdditional additional⟩
      (ofList alls) (ofList anys) (ofList ones) (ofOption negated)
def ofList : List SchemaRef → List Shape
  | [] => []
  | s :: rest => ofRef s :: ofList rest
def ofOption : Option SchemaRef → Option Shape
  | none => none
  | some s => some (ofRef s)
def ofTable : List (String × SchemaRef) → List (String × Shape)
  | [] => []
  | (k, s) :: rest => (k, ofRef s) :: ofTable rest
def ofAdditional : Option (AdditionalSpec SchemaRef) → Additional Shape
  | none | some (.flag true) => .allowed
  | some (.flag false) => .denied
  | some (.schema s) => .shape (ofRef s)
end

def ofSchema (s : Schema) : Shape := ofParts s.keywords s.parts

end Shape
end ApiAtlas
