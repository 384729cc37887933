import ApiAtlas.Graph.Query
import ApiAtlas.Graph.Token

/-!
Reading graph queries. Each reader takes the tokens that are left and gives a result with the tokens
behind it, or stops at a token (`Stop`). Values, nested selections and directives are read for their
form only. Nesting is limited to `maxDepth`; fragments in place do not count as nesting.
-/
namespace ApiAtlas.Graph

/-- What is wrong with a query at a token. -/
inductive QueryProblem where
  | expected (what : String)
  | tooDeep
  | noOperations
deriving DecidableEq, Repr

/-- A problem and the tokens from the place on where it was found. -/
structure Stop where
  problem : QueryProblem
  rest : List Token

/-- A syntax error with its place; lines and columns count from one. -/
structure SyntaxError where
  message : String
  line : Nat
  column : Nat
deriving DecidableEq, Repr

namespace SyntaxError

/-- The error at an offset of a text. -/
def of (source : List Char) (offset : Nat) (message : String) : SyntaxError :=
  let before := source.take offset
  ⟨message, before.count '\n' + 1, (before.reverse.takeWhile (· ≠ '\n')).length + 1⟩

def text (e : SyntaxError) : String :=
  "query syntax error at " ++ toString e.line ++ ":" ++ toString e.column ++ ": " ++ e.message

end SyntaxError

namespace Query

/-- The deepest nesting of selections, values and types. -/
def maxDepth : Nat := 64

def expected (what : String) (ts : List Token) : Except Stop α := .error ⟨.expected what, ts⟩

def isAt (kind : TokenKind) : List Token → Bool
  | t :: _ => t.kind = kind
  | [] => false

def atWord (word : String) : List Token → Bool
  | t :: _ => t.kind = .name ∧ t.text = word
  | [] => false

def punct (c : Char) (ts : List Token) : Except Stop (Token × List Token) :=
  match ts with
  | t :: rest => if t.kind = .punct c then .ok (t, rest) else expected ("'" ++ c.toString ++ "'") ts
  | [] => expected ("'" ++ c.toString ++ "'") ts

def name (ts : List Token) : Except Stop (Token × List Token) :=
  match ts with
  | t :: rest => if t.kind = .name then .ok (t, rest) else expected "a name" ts
  | [] => expected "a name" ts

/-- A type: a name, or a type in brackets, each perhaps with an exclamation mark. -/
def type : Nat → Nat → List Token → Except Stop (String × List Token)
  | 0, _, ts => .error ⟨.tooDeep, ts⟩
  | fuel + 1, depth, ts =>
    if maxDepth < depth then .error ⟨.tooDeep, ts⟩
    else do
      let (text, ts) ←
        if isAt (.punct '[') ts then do
          let (inner, ts) ← type fuel (depth + 1) (ts.drop 1)
          let (_, ts) ← punct ']' ts
          pure ("[" ++ inner ++ "]", ts)
        else do
          let (t, ts) ← name ts
          pure (t.text, ts)
      if isAt (.punct '!') ts then return (text ++ "!", ts.drop 1) else return (text, ts)

mutual
/-- A value; gives the offset behind it. -/
def value : Nat → Nat → List Token → Except Stop (Nat × List Token)
  | 0, _, ts => .error ⟨.tooDeep, ts⟩
  | fuel + 1, depth, ts =>
    if maxDepth < depth then .error ⟨.tooDeep, ts⟩
    else match ts with
      | [] => expected "a value" ts
      | t :: rest =>
        match t.kind with
        | .punct '$' => do
          let (t, ts) ← name rest
          return (t.stop, ts)
        | .int | .float | .string | .name => .ok (t.stop, rest)
        | .punct '[' => items fuel depth rest
        | .punct '\x7b' => members fuel depth rest
        | _ => expected "a value" ts
def items : Nat → Nat → List Token → Except Stop (Nat × List Token)
  | 0, _, ts => .error ⟨.tooDeep, ts⟩
  | fuel + 1, depth, ts =>
    match ts with
    | [] => expected "']'" ts
    | t :: rest =>
      if t.kind = .punct ']' then .ok (t.stop, rest)
      else do
        let (_, ts) ← value fuel (depth + 1) ts
        items fuel depth ts
def members : Nat → Nat → List Token → Except Stop (Nat × List Token)
  | 0, _, ts => .error ⟨.tooDeep, ts⟩
  | fuel + 1, depth, ts =>
    match ts with
    | [] => expected "a name" ts
    | t :: rest =>
      if t.kind = .punct '\x7d' then .ok (t.stop, rest)
      else do
        let (_, ts) ← name ts
        let (_, ts) ← punct ':' ts
        let (_, ts) ← value fuel (depth + 1) ts
        members fuel depth ts
end

/-- Arguments behind the opening parenthesis, one at least; gives their names. -/
def arguments : Nat → Nat → List Token → Except Stop (List String × List Token)
  | 0, _, ts => .error ⟨.tooDeep, ts⟩
  | fuel + 1, depth, ts => do
    let (t, ts) ← name ts
    let (_, ts) ← punct ':' ts
    let (_, ts) ← value fuel (depth + 1) ts
    if isAt (.punct ')') ts then return ([t.text], ts.drop 1)
    else
      let (names, ts) ← arguments fuel depth ts
      return (t.text :: names, ts)

def optionalArguments (fuel depth : Nat) (ts : List Token) :
    Except Stop (List String × List Token) :=
  if isAt (.punct '(') ts then arguments fuel depth (ts.drop 1) else .ok ([], ts)

def directives : Nat → Nat → List Token → Except Stop (Unit × List Token)
  | 0, _, ts => .error ⟨.tooDeep, ts⟩
  | fuel + 1, depth, ts =>
    if isAt (.punct '@') ts then do
      let (_, ts) ← name (ts.drop 1)
      let (_, ts) ← optionalArguments fuel depth ts
      directives fuel depth ts
    else .ok ((), ts)

mutual
/-- Selections in braces, one at least. Gives the fields on the root type, none if it lies below. -/
def selectionSet : Nat → Nat → List Token → Except Stop (List RootField × List Token)
  | 0, _, ts => .error ⟨.tooDeep, ts⟩
  | fuel + 1, depth, ts =>
    if maxDepth < depth then .error ⟨.tooDeep, ts⟩
    else do
      let (_, ts) ← punct '\x7b' ts
      if isAt (.punct '\x7d') ts then expected "at least one selection" ts
      else
        let (fields, ts) ← selections fuel depth ts
        return (if depth = 0 then fields else [], ts)
def selections : Nat → Nat → List Token → Except Stop (List RootField × List Token)
  | 0, _, ts => .error ⟨.tooDeep, ts⟩
  | fuel + 1, depth, ts =>
    match ts with
    | [] => expected "a field, fragment spread or '\x7d'" ts
    | t :: rest =>
      match t.kind with
      | .punct '\x7d' => .ok ([], rest)
      | .spread => do
        let (fields, ts) ← spread fuel depth rest
        let (others, ts) ← selections fuel depth ts
        return (fields ++ others, ts)
      | .name => do
        let (f, ts) ← field fuel depth ts
        let (others, ts) ← selections fuel depth ts
        return (f :: others, ts)
      | _ => expected "a field, fragment spread or '\x7d'" ts
def spread : Nat → Nat → List Token → Except Stop (List RootField × List Token)
  | 0, _, ts => .error ⟨.tooDeep, ts⟩
  | fuel + 1, depth, ts =>
    if atWord "on" ts then do
      let (_, ts) ← name (ts.drop 1)
      let (_, ts) ← directives fuel depth ts
      selectionSet fuel depth ts
    else if isAt .name ts then do
      let (_, ts) ← directives fuel depth (ts.drop 1)
      return ([], ts)
    else do
      let (_, ts) ← directives fuel depth ts
      selectionSet fuel depth ts
def field : Nat → Nat → List Token → Except Stop (RootField × List Token)
  | 0, _, ts => .error ⟨.tooDeep, ts⟩
  | fuel + 1, depth, ts => do
    let (first, ts) ← name ts
    let ((called, name), ts) ←
      if isAt (.punct ':') ts then do
        let (t, ts) ← name (ts.drop 1)
        pure ((some first.text, t.text), ts)
      else pure ((none, first.text), ts)
    let (arguments, ts) ← optionalArguments fuel depth ts
    let (_, ts) ← directives fuel depth ts
    if isAt (.punct '\x7b') ts then
      let (_, ts) ← selectionSet fuel (depth + 1) ts
      return (⟨name, called, arguments⟩, ts)
    else return (⟨name, called, arguments⟩, ts)
end

/-- The source text between two offsets. -/
def slice (source : List Char) (start stop : Nat) : String :=
  String.ofList ((source.drop start).take (stop - start))

/-- A default value, if there is one, as source text. -/
def defaultValue (source : List Char) (fuel : Nat) (ts : List Token) :
    Except Stop (Option String × List Token) :=
  if isAt (.punct '=') ts then do
    let ts := ts.drop 1
    let (stop, rest) ← value fuel 0 ts
    return (some (slice source ((ts.head?.map Token.start).getD stop) stop), rest)
  else .ok (none, ts)

def variableList (source : List Char) : Nat → List Token → Except Stop (List Variable × List Token)
  | 0, ts => .error ⟨.tooDeep, ts⟩
  | fuel + 1, ts => do
    let (_, ts) ← punct '$' ts
    let (t, ts) ← name ts
    let (_, ts) ← punct ':' ts
    let (type, ts) ← type fuel 0 ts
    let (default, ts) ← defaultValue source fuel ts
    let (_, ts) ← directives fuel 0 ts
    let v : Variable := ⟨t.text, type, default⟩
    if isAt (.punct ')') ts then return ([v], ts.drop 1)
    else
      let (vs, ts) ← variableList source fuel ts
      return (v :: vs, ts)

def operation (source : List Char) (fuel : Nat) (kind : OperationKind) (ts : List Token) :
    Except Stop (OperationDefinition × List Token) := do
  let (called, ts) :=
    match ts with
    | t :: rest => if t.kind = .name then (some t.text, rest) else (none, ts)
    | [] => (none, ts)
  let (vars, ts) ←
    if isAt (.punct '(') ts then variableList source fuel (ts.drop 1) else .ok ([], ts)
  let (_, ts) ← directives fuel 0 ts
  let (fields, ts) ← selectionSet fuel 0 ts
  return (⟨kind, called, vars, fields⟩, ts)

def fragment (fuel : Nat) (ts : List Token) : Except Stop (String × List Token) :=
  if atWord "on" ts then expected "a fragment name" ts
  else do
    let (t, ts) ← name ts
    if !atWord "on" ts then expected "'on'" ts
    else
      let (_, ts) ← name (ts.drop 1)
      let (_, ts) ← directives fuel 0 ts
      let (_, ts) ← selectionSet fuel 1 ts
      return (t.text, ts)

def kindAt? : List Token → Option OperationKind
  | t :: _ => if t.kind = .name then OperationKind.ofText? t.text else none
  | [] => none

/-- The definitions up to the end of the tokens, behind those of `q`. -/
def definitions (source : List Char) (size : Nat) :
    Nat → Query → List Token → Except Stop (Query × List Token)
  | 0, _, ts => .error ⟨.tooDeep, ts⟩
  | fuel + 1, q, ts =>
    if ts.isEmpty then .ok (q, ts)
    else if isAt (.punct '\x7b') ts then do
      let (fields, ts) ← selectionSet size 0 ts
      definitions source size fuel
        { q with operations := q.operations ++ [{ kind := .query, fields }] } ts
    else if atWord "fragment" ts then do
      let (f, ts) ← fragment size (ts.drop 1)
      definitions source size fuel { q with fragments := q.fragments ++ [f] } ts
    else match kindAt? ts with
      | none => expected "an operation or fragment definition" ts
      | some kind => do
        let (o, ts) ← operation source size kind (ts.drop 1)
        definitions source size fuel { q with operations := q.operations ++ [o] } ts

/-- A query from its tokens. Each reader calls at most two more before it takes a token, and that
bounds the fuel. -/
def ofTokens (source : List Char) (ts : List Token) : Except Stop Query := do
  let (q, ts) ← definitions source (3 * ts.length + 3) (ts.length + 1) {} ts
  if q.operations.isEmpty then .error ⟨.noOperations, ts⟩ else return q

/-- The message of a problem, given how the token there is described. -/
def problemText (found : String) : QueryProblem → String
  | .expected what => "expected " ++ what ++ ", found " ++ found
  | .tooDeep => "document nests too deeply"
  | .noOperations => "document contains no operations"

/-- The error of a reader that stopped. Where the tokens end early, that is the error. -/
def report (source : List Char) (ending : Ending) (s : Stop) : SyntaxError :=
  match s.rest, ending with
  | t :: _, _ => .of source t.start (problemText ("'" ++ t.text ++ "'") s.problem)
  | [], .complete offset => .of source offset (problemText "end of document" s.problem)
  | [], .broken problem offset => .of source offset problem.message

def read (text : String) : Except SyntaxError Query :=
  let source := text.toList
  let (ts, ending) := Token.ofText source
  match ofTokens source ts, ending with
  | .error s, _ => .error (report source ending s)
  | .ok _, .broken problem offset => .error (.of source offset problem.message)
  | .ok q, .complete _ => .ok q

example : (read "query Q($a: [ID!] = [1, 2]) { b: c(d: $a) { e } }").toOption =
    some ⟨[⟨.query, some "Q", [⟨"a", "[ID!]", some "[1, 2]"⟩], [⟨"c", some "b", ["d"]⟩]⟩], []⟩ := by
  decide +kernel

end Query
end ApiAtlas.Graph
