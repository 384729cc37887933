import ApiAtlas.Cache
import ApiAtlas.Fetch
import ApiAtlas.Graph.Advice
import ApiAtlas.Graph.Query.Parser

/-! What can fail on the way to a response: the query itself, the network, or what a server answers. -/
namespace ApiAtlas.Graph

/-- Why a server's answer describes no schema. -/
inductive IntrospectionFailure where
  /-- The server reports errors, here in one line. -/
  | reported (summary : String)
  | noSchema
  | unexpectedShape
deriving DecidableEq, Repr

def IntrospectionFailure.message : IntrospectionFailure → String
  | .reported summary => summary
  | .noSchema => "response carries no __schema"
  | .unexpectedShape => "unexpected schema shape"

inductive Failure where
  | fetch (e : FetchError)
  | decode (url : String)
  | malformed (e : SyntaxError)
  | rejected (problems : List CheckProblem)
  | introspection (e : IntrospectionFailure)
  /-- The time until which a catalog would be kept is beyond the clock. -/
  | clock
deriving DecidableEq, Repr

namespace Failure

def message : Failure → String
  | .fetch e => e.message
  | .decode url => "failed to decode response from " ++ url
  | .malformed e => e.text
  | .rejected problems =>
    "query failed validation: " ++ "; ".intercalate (problems.map CheckProblem.message)
  | .introspection e => "introspection failed: " ++ e.message
  | .clock => clockOverflow

def causes : Failure → List String
  | .fetch e => e.causes
  | _ => []

def hint : Failure → String
  | .fetch e => e.hint
  | .decode _ =>
    "The endpoint did not answer with a JSON object. Check that the URL points at a GraphQL server."
  | .malformed _ => "Check for missing braces, parentheses, or incorrect query structure."
  | .rejected _ =>
    "Run graph discovery to see the available operations, their arguments and fields."
  | .introspection _ =>
    "The server may have introspection disabled. Ask the API owner for the schema."
  | .clock => ""

def advice : Failure → String
  | .malformed _ => Advice.badQuery.text
  | .rejected problems => (Advice.ofProblems problems).text
  | f => f.hint

end Failure
end ApiAtlas.Graph
