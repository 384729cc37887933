import ApiAtlas.Json.Value

/-!
The text of a JSON value: on one line without blanks (`compact`), or with a member or item per line
and two blanks per level (`pretty`). Members are printed in the order of the value.
-/
namespace ApiAtlas.Json

def hexDigit (n : Nat) : Char := Nat.digitChar n

/-- A character inside a quoted string. Control characters have a short name or four digits. -/
def escape (c : Char) : String :=
  if c = '"' then "\\\"" else if c = '\\' then "\\\\"
  else if c = '\n' then "\\n" else if c = '\r' then "\\r" else if c = '\t' then "\\t"
  else if c = '\x08' then "\\b" else if c = '\x0c' then "\\f"
  else if c.toNat < 32 then
    "\\u00" ++ (hexDigit (c.toNat / 16)).toString ++ (hexDigit (c.toNat % 16)).toString
  else c.toString

def quote (s : String) : String :=
  "\"" ++ String.join (s.toList.map escape) ++ "\""

mutual
def compact : Json → String
  | .null => "null"
  | .bool b => if b then "true" else "false"
  | .num n => n.render
  | .str s => quote s
  | .arr items => "[" ++ compactItems items ++ "]"
  | .obj members => "\x7b" ++ compactMembers members ++ "\x7d"
def compactItems : List Json → String
  | [] => ""
  | [a] => compact a
  | a :: b :: rest => compact a ++ "," ++ compactItems (b :: rest)
def compactMembers : List (String × Json) → String
  | [] => ""
  | [(k, a)] => quote k ++ ":" ++ compact a
  | (k, a) :: b :: rest => quote k ++ ":" ++ compact a ++ "," ++ compactMembers (b :: rest)
end

/-- A line break and the blanks of a level. -/
def newline (level : Nat) : String := "\n" ++ String.ofList (List.replicate (2 * level) ' ')

mutual
def prettyAt (level : Nat) : Json → String
  | .null => "null"
  | .bool b => if b then "true" else "false"
  | .num n => n.render
  | .str s => quote s
  | .arr [] => "[]"
  | .arr (a :: rest) => "[" ++ prettyItems (level + 1) (a :: rest) ++ newline level ++ "]"
  | .obj [] => "\x7b\x7d"
  | .obj (m :: rest) => "\x7b" ++ prettyMembers (level + 1) (m :: rest) ++ newline level ++ "\x7d"
def prettyItems (level : Nat) : List Json → String
  | [] => ""
  | [a] => newline level ++ prettyAt level a
  | a :: b :: rest => newline level ++ prettyAt level a ++ "," ++ prettyItems level (b :: rest)
def prettyMembers (level : Nat) : List (String × Json) → String
  | [] => ""
  | [(k, a)] => newline level ++ quote k ++ ": " ++ prettyAt level a
  | (k, a) :: b :: rest =>
    newline level ++ quote k ++ ": " ++ prettyAt level a ++ "," ++ prettyMembers level (b :: rest)
end

def pretty (v : Json) : String := prettyAt 0 v

example : compact (.obj [("a", .arr [.null, .num (.real (.ofInt 1))]), ("b", .str "x\ny")])
    = "\x7b\"a\":[null,1.0],\"b\":\"x\\ny\"\x7d" := by decide +kernel

end ApiAtlas.Json
