import ApiAtlas.Document.Schema
import ApiAtlas.Text.Search

/-! Servers: addresses with variables in braces, each with a default. -/
namespace ApiAtlas

structure ServerVariable where
  default : String
  description : Option String := none
  enum : List String := []

structure Server where
  url : String
  description : Option String := none
  vars : Table ServerVariable := []

open ApiAtlas.Tree Member

namespace ServerVariable

def read? (t : Tree) : Option ServerVariable := do
  let f ← t.record? ["default", "description", "enum"] 2
  return {
    default := ← Tree.required f "default" text?
    description := ← optional f "description" text?
    enum := ← defaulted f "enum" [] (list? text?) }

def toJson (v : ServerVariable) : Json := .obj <|
  always "default" (.str v.default)
  ++ option "description" .str v.description
  ++ list "enum" .str v.enum

end ServerVariable

namespace Server

def read? (t : Tree) : Option Server := do
  let f ← t.record? ["url", "description", "variables"] 2
  return {
    url := ← Tree.required f "url" text?
    description := ← optional f "description" text?
    vars := ← defaulted f "variables" [] (table? ServerVariable.read?) }

def toJson (s : Server) : Json := .obj <|
  always "url" (.str s.url)
  ++ option "description" .str s.description
  ++ table "variables" ServerVariable.toJson s.vars

/-- The place of a variable in an address. -/
def placeholder (name : String) : String := "\x7b" ++ name ++ "\x7d"

/-- The address with the default of each variable in its place, one variable after the other in the
order of declaration. -/
def expandedUrl (s : Server) : String :=
  s.vars.foldl (fun url (name, v) => replaceAll url (placeholder name) v.default) s.url

end Server
end ApiAtlas
