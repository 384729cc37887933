import ApiAtlas.Json.Reader
import ApiAtlas.Shape.Check
import ApiAtlas.Text.Blank

/-!
Conversion of loosely typed values, such as the texts of a query string, into the type of a shape.
A value that has the type already, or cannot be converted, stays as it is.
-/
namespace ApiAtlas.Shape

def minWord : Int := -Nat.pow 2 63
def maxWord : Int := Nat.pow 2 63 - 1

/-- The integer of a double without a fraction, inside the signed 64-bit range. -/
def wholeOf? (x : Binary64) : Option Int :=
  if x.isWhole && x.abs.lt (.ofInt (Nat.pow 2 63)) then some x.truncate else none

/-- An integer numeral, or any numeral of a whole number. -/
def readInteger? (s : String) : Option Int :=
  match Decimal.readInt? minWord maxWord s with
  | some n => some n
  | none => (Decimal.readDouble? s).bind wholeOf?

def readTruth? (s : String) : Option Bool :=
  let word := Decimal.lowered (trimBlanks s.toList)
  if ["true", "1", "yes", "on"].contains word then some true
  else if ["false", "0", "no", "off"].contains word then some false
  else none

/-- Converts a value to a type; `item` converts the items of an array. -/
def coerceTo (target : TypeName) (item : Option (Json → Json)) (v : Json) : Json :=
  let convert (v : Json) : Json := match item with
    | some f => f v
    | none => v
  match target, v with
  | .string, .num n => .str n.render
  | .string, .bool b => .str (if b then "true" else "false")
  | .integer, .str s => ((readInteger? (trim s)).map Json.int).getD v
  | .integer, .num (.real x) => ((wholeOf? x).map Json.int).getD v
  | .integer, .bool b => .int (if b then 1 else 0)
  | .number, .str s =>
    match readInteger? (trim s) with
    | some n => .int n
    | none =>
      match Decimal.readDouble? (trim s) with
      | some x => if x.isFinite then .num (.real x) else v
      | none => v
  | .boolean, .str s => ((readTruth? s).map Json.bool).getD v
  | .boolean, .num n =>
    let x := n.toBinary64
    if x.eqv (.ofInt 1) then .bool true else if x.eqv .zero then .bool false else v
  | .array, .arr items => .arr (items.map convert)
  | .array, .str s => .arr ((fields ',' s).map fun p => convert (.str (trim p)))
  | .array, .num _ | .array, .bool _ => .arr [convert v]
  | .object, .str s =>
    match Json.read? s with
    | some (.obj members) => .obj members
    | _ => v
  | _, _ => v

/-- Converts a value if there is a type to convert it to. -/
def coerceWith (target : Option TypeName) (item : Option (Json → Json)) (v : Json) : Json :=
  match target with
  | some t => coerceTo t item v
  | none => v

mutual
/-- Converts a value to the primary type of a shape. -/
def coerce : Shape → Json → Json
  | .simple f parts, v => coerceWith f.type (partCoercion parts) v
  | .allOf parts, v | .anyOf parts, v | .oneOf parts, v =>
    coerceWith (firstType parts) (firstCoercion parts) v
  | .not _, v => v
/-- The conversion of items: that of the first node with an item shape, through composition. -/
def itemCoercion : Shape → Option (Json → Json)
  | .simple _ parts => partCoercion parts
  | .allOf parts | .anyOf parts | .oneOf parts => firstCoercion parts
  | .not _ => none
def partCoercion : NodeParts Shape → Option (Json → Json)
  | ⟨some s, _, _⟩ => some fun v => coerce s v
  | ⟨none, _, _⟩ => none
def firstCoercion : List Shape → Option (Json → Json)
  | [] => none
  | s :: rest => match itemCoercion s with
    | some f => some f
    | none => firstCoercion rest
end

end ApiAtlas.Shape
