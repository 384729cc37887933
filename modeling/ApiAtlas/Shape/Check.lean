import ApiAtlas.Format
import ApiAtlas.Pattern.Match
import ApiAtlas.Shape

/-!
Checking values against shapes. A check collects every failure (`Issue`) and never stops at the
first; a value is valid if there is none. The checks on required members and on constraints can be
left out (`Checks`); those on types, undeclared members and composition always run. `anyOf`, `oneOf`
and `not` report one issue of their own and hide those of their parts.
-/
namespace ApiAtlas

/-- What an issue is about. -/
inductive IssueKind where
  | required | type | range | length | pattern | enum | format | items
  | additionalProperty | composition | unexpectedBody | undeclaredStatus
deriving DecidableEq, Repr

namespace IssueKind

def text : IssueKind → String
  | .required => "required"
  | .type => "type"
  | .range => "range"
  | .length => "length"
  | .pattern => "pattern"
  | .enum => "enum"
  | .format => "format"
  | .items => "items"
  | .additionalProperty => "additional_property"
  | .composition => "composition"
  | .unexpectedBody => "unexpected_body"
  | .undeclaredStatus => "undeclared_status"

end IssueKind

/-- One step from a value to a part of it. -/
inductive Step where
  | key (name : String)
  | index (i : Nat)
deriving DecidableEq, Repr

abbrev Path := List Step

namespace Path

/-- A path as text: keys behind points, indices in brackets. -/
def text (path : Path) : String :=
  path.foldl (fun out step => match step with
    | .key name => if out = "" then name else out ++ "." ++ name
    | .index i => out ++ "[" ++ toString i ++ "]") ""

end Path

structure Issue where
  path : Path
  kind : IssueKind
  message : String
deriving DecidableEq, Repr

namespace Issue

def toJson (i : Issue) : Json :=
  .obj [("path", .str (Path.text i.path)), ("kind", .str i.kind.text), ("message", .str i.message)]

end Issue

namespace Json

/-- The name of a value's type; whole numbers are integers. -/
def typeText : Json → String
  | .null => "null"
  | .bool _ => "boolean"
  | .num (.whole _) => "integer"
  | .num (.real _) => "number"
  | .str _ => "string"
  | .arr _ => "array"
  | .obj _ => "object"

/-- Whether a value has a type. A double without a fraction is an integer too. -/
def hasType : TypeName → Json → Bool
  | .string, .str _ | .boolean, .bool _ | .array, .arr _ | .object, .obj _ | .null, .null
  | .number, .num _ | .integer, .num (.whole _) => true
  | .integer, .num (.real x) => x.isWhole
  | _, _ => false

/-- Two numbers are the same if they are the same double; other values if they have the same
structure, and the numbers in them are of one kind and equal. -/
def same : Json → Json → Bool
  | .num a, .num b => a.toBinary64.eqv b.toBinary64
  | a, b => a.equalBy Number.eqv b

end Json

namespace Shape

/-- The checks that can be left out. -/
structure Checks where
  required : Bool := true
  constraints : Bool := true
deriving DecidableEq, Repr

/-- The failures of a value found at a path. -/
abbrev Checker := Json → Path → List Issue

/-- One issue if a condition fails. -/
def demand (ok : Bool) (path : Path) (kind : IssueKind) (message : String) : List Issue :=
  if ok then [] else [⟨path, kind, message⟩]

/-- One issue if there is a limit and it is not kept. -/
def limit (bound : Option α) (keeps : α → Bool) (path : Path) (kind : IssueKind)
    (message : α → String) : List Issue :=
  match bound with
  | some b => demand (keeps b) path kind (message b)
  | none => []

def typeIssue (path : Path) (expected : Option TypeName) (v : Json) : Issue :=
  ⟨path, .type, "expected type " ++ (expected.map TypeName.text).getD "null" ++ ", got "
    ++ v.typeText⟩

/-- A whole number of steps, up to a relative error of one part in 2⁵². A step that is not positive
asks nothing. -/
def isMultiple (step v : Binary64) : Bool :=
  !(Binary64.zero.lt step) ||
    !((Binary64.epsilon.mul (v.abs.max (.ofInt 1))).lt
      ((((v.div step).round.mul step).sub v).abs))

def numberIssues (f : Facets) (v : Binary64) (path : Path) : List Issue :=
  limit f.minimum (fun m => !(if f.exclusiveMinimum then v.le m else v.lt m)) path .range
    (fun m => "must be " ++ (if f.exclusiveMinimum then "greater than" else "at least") ++ " "
      ++ Layout.plain.write m)
  ++ limit f.maximum (fun m => !(if f.exclusiveMaximum then m.le v else m.lt v)) path .range
    (fun m => "must be " ++ (if f.exclusiveMaximum then "less than" else "at most") ++ " "
      ++ Layout.plain.write m)
  ++ limit f.multipleOf (isMultiple · v) path .range
    (fun s => "must be a multiple of " ++ Layout.plain.write s)

def stringIssues (f : Facets) (s : String) (path : Path) : List Issue :=
  limit f.minLength (fun n => decide (n ≤ s.length)) path .length
    (fun n => "must be at least " ++ toString n ++ " characters long")
  ++ limit f.maxLength (fun n => decide (s.length ≤ n)) path .length
    (fun n => "must be at most " ++ toString n ++ " characters long")
  ++ limit f.pattern (fun p => Pattern.accepts p s) path .pattern
    (fun p => "must match pattern " ++ p)
  ++ limit f.format (fun name => Format.accepts name s) path .format
    (fun name => "must be a valid " ++ name)

/-- Whether no item is the same as an earlier one. -/
def distinct : List Json → Bool
  | [] => true
  | v :: rest => !(rest.any fun w => w.same v) && distinct rest

def itemCountIssues (f : Facets) (items : List Json) (path : Path) : List Issue :=
  limit f.minItems (fun n => decide (n ≤ items.length)) path .items
    (fun n => "must contain at least " ++ toString n ++ " items")
  ++ limit f.maxItems (fun n => decide (items.length ≤ n)) path .items
    (fun n => "must contain at most " ++ toString n ++ " items")
  ++ demand (!f.uniqueItems || distinct items) path .items "items must be unique"

/-- Whether a node admits null. -/
def admitsNull (f : Facets) : Bool :=
  f.nullable || f.type.isNone || f.type == some .null || f.enum.any Json.isNull

/-- The failures of the items of an array, counted from an index. -/
def itemIssues (check : Checker) (path : Path) : Nat → List Json → List Issue
  | _, [] => []
  | i, v :: rest => check v (path ++ [.index i]) ++ itemIssues check path (i + 1) rest

/-- The failures of a member of an object. -/
def memberIssues (parts : NodeParts Checker) (path : Path) (key : String) (v : Json) :
    List Issue :=
  let child := path ++ [.key key]
  match parts.properties.lookup key with
  | some check => check v child
  | none =>
    match parts.additional with
    | .allowed => []
    | .denied =>
      [⟨child, .additionalProperty, "additional property " ++ key ++ " is not allowed"⟩]
    | .shape check => check v child

def missingIssues (f : Facets) (members : List (String × Json)) (path : Path) : List Issue :=
  f.required.flatMap fun name =>
    demand (members.lookup name).isSome (path ++ [.key name]) .required (name ++ " is required")

/-- What remains to be checked of a value that has the type of its node. -/
def contentIssues (c : Checks) (f : Facets) (parts : NodeParts Checker) (v : Json) (path : Path) :
    List Issue :=
  match v with
  | .str s => if c.constraints then stringIssues f s path else []
  | .num n => if c.constraints then numberIssues f n.toBinary64 path else []
  | .arr items =>
    (if c.constraints then itemCountIssues f items path else [])
    ++ (match parts.items with
      | some check => itemIssues check path 0 items
      | none => [])
  | .obj members =>
    (if c.required then missingIssues f members path else [])
    ++ members.flatMap fun (key, v) => memberIssues parts path key v
  | _ => []

/-- The failures of a value at a node. Null is decided first, then the type; a value of the wrong
type has no further failures. -/
def nodeIssues (c : Checks) (f : Facets) (parts : NodeParts Checker) (v : Json) (path : Path) :
    List Issue :=
  if v.isNull then (if admitsNull f then [] else [typeIssue path f.type v])
  else if !(f.type.all (Json.hasType · v)) then [typeIssue path f.type v]
  else
    (if c.constraints && !f.enum.isEmpty then
      demand (f.enum.any (·.same v)) path .enum ("must be one of " ++ Json.renderAll f.enum)
    else [])
    ++ contentIssues c f parts v path

mutual
def issues (c : Checks) : Shape → Json → Path → List Issue
  | .simple f parts, v, path => nodeIssues c f (partIssues c parts) v path
  | .allOf parts, v, path => (listIssues c parts).flatMap fun check => check v path
  | .anyOf parts, v, path =>
    demand ((listIssues c parts).any fun check => (check v []).isEmpty) path .composition
      ("value does not match any of the " ++ toString parts.length ++ " allowed schemas")
  | .oneOf parts, v, path =>
    let matched := (listIssues c parts).countP fun check => (check v []).isEmpty
    demand (matched == 1) path .composition
      ("value must match exactly one of " ++ toString parts.length ++ " schemas, matched "
        ++ toString matched)
  | .not part, v, path =>
    demand (!(issues c part v []).isEmpty) path .composition
      "value matches a schema it must not match"
def partIssues (c : Checks) : NodeParts Shape → NodeParts Checker
  | ⟨items, properties, additional⟩ =>
    ⟨optionIssues c items, tableIssues c properties, additionalIssues c additional⟩
def listIssues (c : Checks) : List Shape → List Checker
  | [] => []
  | s :: rest => (fun v path => issues c s v path) :: listIssues c rest
def optionIssues (c : Checks) : Option Shape → Option Checker
  | none => none
  | some s => some fun v path => issues c s v path
def tableIssues (c : Checks) : List (String × Shape) → List (String × Checker)
  | [] => []
  | (k, s) :: rest => (k, fun v path => issues c s v path) :: tableIssues c rest
def additionalIssues (c : Checks) : Additional Shape → Additional Checker
  | .allowed => .allowed
  | .denied => .denied
  | .shape s => .shape fun v path => issues c s v path
end

def validate (c : Checks) (s : Shape) (v : Json) : List Issue := issues c s v []

def isValid (c : Checks) (s : Shape) (v : Json) : Bool := (validate c s v).isEmpty

end Shape
end ApiAtlas
