import ApiAtlas.Document.Schema

/-!
Values to be written, in any format. They are JSON values, with two distinctions that JSON does not
make: a double need not be finite, and a variant is a value under a name that says which of several
forms it has. JSON writes a variant as an object with one member.
-/
namespace ApiAtlas

inductive Data where
  | value (v : Json)
  | real (x : Binary64)
  | list (items : List Data)
  | record (members : List (String × Data))
  | variant (name : String) (content : Data)
deriving Inhabited

namespace Data

mutual
def toJson : Data → Json
  | .value v => v
  | .real x => .real x
  | .list items => .arr (itemsJson items)
  | .record members => .obj (membersJson members)
  | .variant name content => .obj [(name, toJson content)]
def itemsJson : List Data → List Json
  | [] => []
  | d :: rest => toJson d :: itemsJson rest
def membersJson : List (String × Data) → List (String × Json)
  | [] => []
  | (k, d) :: rest => (k, toJson d) :: membersJson rest
end

/-- Members of a record that are JSON values. -/
def plain (members : List (String × Json)) : List (String × Data) :=
  members.map fun (k, v) => (k, .value v)

def always (name : String) (d : Data) : List (String × Data) := [(name, d)]

def option (name : String) (write : α → Data) : Option α → List (String × Data)
  | some a => [(name, write a)]
  | none => []

/-- A list under a name, nothing if it is empty. -/
def listed (name : String) (write : α → Data) : List α → List (String × Data)
  | [] => []
  | xs => [(name, .list (xs.map write))]

def table (name : String) (write : α → Data) : List (String × α) → List (String × Data)
  | [] => []
  | xs => [(name, .record (xs.map fun (k, a) => (k, write a)))]

end Data
end ApiAtlas
