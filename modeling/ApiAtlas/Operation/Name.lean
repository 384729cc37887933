import ApiAtlas.Text.Blank
import ApiAtlas.Text.Words

/-!
Names for operations that declare none: a verb for the method, then the fixed segments of the path as
capitalized words. A segment with a parameter behind it names one item and loses its plural ending.
-/
namespace ApiAtlas.RouteName

/-- A path segment that stands for a value. -/
def isParameter (segment : List Char) : Bool :=
  segment.head? = some '{' ∧ segment.getLast? = some '}'

/-- The fixed segments, each with whether a parameter follows before the next one. -/
def resources : List (List Char) → List (List Char × Bool)
  | [] => []
  | s :: rest =>
    if isParameter s then resources rest
    else (s, (rest.head?.map isParameter).getD false) :: resources rest

def endsWith (ending word : List Char) : Bool := ending.reverse.isPrefixOf word.reverse

/-- A plural ending taken off. -/
def singular (word : List Char) : List Char :=
  let bytes := (String.ofList word).utf8ByteSize
  let cut (n : Nat) := word.take (word.length - n)
  if endsWith ['i', 'e', 's'] word ∧ 3 < bytes then cut 3 ++ ['y']
  else if endsWith ['s', 'e', 's'] word ∨ endsWith ['x', 'e', 's'] word ∨ endsWith ['z', 'e', 's'] word
    then cut 2
  else if endsWith ['s'] word ∧ ¬ endsWith ['s', 's'] word ∧ 1 < bytes then cut 1
  else word

/-- The verb of a method in upper case; reading one item differs from reading a list. -/
def verb (method : String) (endsWithParameter : Bool) : String :=
  if method = "GET" then (if endsWithParameter then "get" else "list")
  else if method = "POST" then "create"
  else if method = "PUT" then "update"
  else if method = "DELETE" then "delete"
  else if method = "PATCH" then "patch"
  else if method = "OPTIONS" then "options"
  else if method = "HEAD" then "head"
  else if method = "TRACE" then "trace"
  else "call"

def ofRoute (method path : String) : String :=
  let segments := (splitOn '/' path.toList).filter (!·.isEmpty)
  let endsWithParameter := (segments.getLast?.map isParameter).getD false
  (resources segments).foldl (fun name (segment, single) =>
    name ++ Words.capitalized (String.ofList (if single then singular segment else segment)))
    (verb (Case.upperText method) endsWithParameter)

end ApiAtlas.RouteName
