import ApiAtlas.Document.Schema

/-!
Responses of graph servers. Errors that a server reports are part of a response, beside its data.
-/
namespace ApiAtlas.Graph

structure SourceLocation where
  line : Nat
  column : Nat

structure ResponseError where
  message : String
  locations : List SourceLocation := []
  path : List Json := []
  extensions : Option Json := none

structure Response where
  data : Json := .null
  errors : List ResponseError := []
  extensions : Option Json := none

open ApiAtlas.Tree

def object? (t : Tree) : Option Json :=
  match value? t with
  | some (.obj members) => some (.obj members)
  | _ => none

def halfWord? (t : Tree) : Option Nat := (word? t).bind fun n => if n < Nat.pow 2 32 then some n else none

namespace SourceLocation

def ofTree? (t : Tree) : Option SourceLocation := do
  let f ← t.record? ["line", "column"]
  return ⟨← Tree.required f "line" halfWord?, ← Tree.required f "column" halfWord?⟩

def toJson (l : SourceLocation) : Json := .obj [("line", .nat l.line), ("column", .nat l.column)]

end SourceLocation

namespace ResponseError

def ofTree? (t : Tree) : Option ResponseError := do
  let f ← t.record? ["message", "locations", "path", "extensions"] 1
  return {
    message := ← Tree.required f "message" text?
    locations := ← defaulted f "locations" [] (list? SourceLocation.ofTree?)
    path := ← defaulted f "path" [] (list? value?)
    extensions := ← optional f "extensions" object? }

def toJson (e : ResponseError) : Json := .obj <|
  Member.always "message" (.str e.message)
  ++ Member.list "locations" SourceLocation.toJson e.locations
  ++ Member.list "path" id e.path
  ++ Member.option "extensions" id e.extensions

end ResponseError

namespace Response

def ofTree? (t : Tree) : Option Response := do
  let f ← t.record? ["data", "errors", "extensions"] 0
  return {
    data := ← defaulted f "data" .null value?
    errors := ← defaulted f "errors" [] (list? ResponseError.ofTree?)
    extensions := ← optional f "extensions" object? }

def toJson (r : Response) : Json := .obj <|
  Member.always "data" r.data
  ++ Member.list "errors" ResponseError.toJson r.errors
  ++ Member.option "extensions" id r.extensions

def hasErrors (r : Response) : Bool := !r.errors.isEmpty

def summary (r : Response) : String := "; ".intercalate (r.errors.map ResponseError.message)

end Response
end ApiAtlas.Graph
