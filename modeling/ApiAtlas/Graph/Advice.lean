import ApiAtlas.Graph.Catalog
import ApiAtlas.Graph.Response
import ApiAtlas.Text.Case
import ApiAtlas.Text.Search

/-!
Advice on failures of graph operations. Servers word their messages freely, so the advice on a message
goes by the words in it, whatever their case.
-/
namespace ApiAtlas.Graph

inductive Advice where
  | unknownField | variableType | badQuery | unauthorized | other
deriving DecidableEq, Repr

namespace Advice

def text : Advice → String
  | .unknownField =>
    "This field doesn't exist on the type. Check the discovered catalog to see available fields."
  | .variableType =>
    "Variable type mismatch. Ensure variables match the expected types defined in the query."
  | .badQuery =>
    "Syntax error. Check for missing braces, parentheses, or incorrect query structure."
  | .unauthorized =>
    "Authentication required. Ensure you've provided the correct authentication credentials."
  | .other =>
    "The operation failed. Run graph discovery to explore available operations and their structure."

/-- The advice on a message. -/
def ofMessage (message : String) : Advice :=
  let words := message.toList.flatMap Case.lower
  let has (word : String) : Bool := occursIn word.toList words
  if has "field" && (has "doesn't exist" || has "does not exist" || has "cannot query") then
    .unknownField
  else if has "variable" && has "type" then .variableType
  else if has "syntax" || has "parse" then .badQuery
  else if has "unauthorized" || has "unauthenticated" || has "forbidden" then .unauthorized
  else .other

/-- The advice on a query with problems, by the first of them. -/
def ofProblems (problems : List CheckProblem) : Advice :=
  match problems with
  | p :: _ => ofMessage p.message
  | [] => .other

/-- The advice on the errors in a response, each once. -/
def ofResponse (r : Response) : List Advice :=
  firsts (r.errors.map fun e => ofMessage e.message)

end Advice
end ApiAtlas.Graph
