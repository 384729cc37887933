import ApiAtlas.Command.Line
import ApiAtlas.Config

/-!
The commands of the program and how they are written on a line. `Invocation.read` reads a line.
-/
namespace ApiAtlas

inductive Rendering where
  | markdown | yaml | json
deriving DecidableEq, Repr

inductive Shell where
  | bash | elvish | fish | powershell | zsh
deriving DecidableEq, Repr

inductive Command where
  /-- Lists the endpoints of a document, or those with a tag. -/
  | discover (source : String) (rendering : Rendering) (tag : Option String)
  /-- Shows one endpoint. -/
  | find (source method path : String) (rendering : Rendering)
  /-- Checks a request. -/
  | validate (source id : String) (params : List String) (body : Option String)
    (leniency : Leniency) (rendering : Rendering)
  /-- Lists what a graph endpoint offers. -/
  | discoverGraph (endpoint : String) (rendering : Rendering)
  /-- Sends a query; `check` asks for the catalog of the endpoint first. -/
  | execute (endpoint query : String) (vars name : Option String) (check : Bool)
  /-- Writes a configuration file. -/
  | init (force : Bool)
  | completions (shell : Shell)
deriving DecidableEq, Repr

namespace Rendering

def ofText? (s : String) : Option Rendering :=
  [("markdown", markdown), ("yaml", yaml), ("json", json)].lookup s

end Rendering

namespace Shell

def ofText? (s : String) : Option Shell :=
  [("bash", bash), ("elvish", elvish), ("fish", fish), ("powershell", powershell),
    ("zsh", zsh)].lookup s

end Shell

namespace Command

def configSwitch : Switch := { name := "config", effect := .value (· ≠ "") }
def helpSwitch : Switch := { name := "help", letter := some 'h', effect := .stop .help }
def versionSwitch : Switch := { name := "version", letter := some 'V', effect := .stop .version }

def flag (name : String) : Switch := { name, effect := .flag }

def text (name : String) : Switch := { name, effect := .value fun _ => true }

def formatSwitch (names : List String) : Switch where
  name := "format"
  effect := .value names.contains

def paramSwitch : Switch := { name := "param", letter := some 'p', effect := .values }

def word (name : String) : Operand := { name }

def command (switches : List Switch) (operands : List Operand) : Grammar :=
  .command (configSwitch :: helpSwitch :: switches) operands

def graphGrammar : Grammar := .group [configSwitch, helpSwitch] [
  ("discover", command [formatSwitch ["markdown", "yaml", "json"]] [word "ENDPOINT"]),
  ("execute", command [text "variables", text "operation-name", flag "check"]
    [word "ENDPOINT", word "QUERY"])]

def grammar : Grammar := .group [configSwitch, helpSwitch, versionSwitch] [
  ("discover", command [formatSwitch ["markdown", "yaml", "json"], text "tag"]
    [word "SOURCE"]),
  ("find", command [formatSwitch ["yaml", "json"]]
    [word "SOURCE", word "METHOD", word "PATH"]),
  ("validate", command
    [paramSwitch, text "body", flag "coerce", flag "skip-required", flag "skip-constraints",
      flag "skip-types", formatSwitch ["yaml", "json"]]
    [word "SOURCE", word "OPERATION_ID"]),
  ("graphql", graphGrammar),
  ("init", command [flag "force"] []),
  ("completions", command [] [⟨"SHELL", fun s => (Shell.ofText? s).isSome⟩])]

def renderingOf (l : Line) (default : Rendering) : Rendering :=
  ((l.value? "format").bind Rendering.ofText?).getD default

/-- What a line lets pass. -/
def leniencyOf (l : Line) : Leniency where
  skipRequired := l.has "skip-required"
  skipConstraints := l.has "skip-constraints"
  skipTypes := l.has "skip-types"
  allowCoercion := l.has "coerce"

def ofLine? (l : Line) : Option Command :=
  match l.path, l.operands with
  | ["discover"], [source] => some (.discover source (renderingOf l .markdown) (l.value? "tag"))
  | ["find"], [source, method, path] => some (.find source method path (renderingOf l .yaml))
  | ["validate"], [source, id] =>
    some (.validate source id (l.values "param") (l.value? "body") (leniencyOf l)
      (renderingOf l .yaml))
  | ["graphql", "discover"], [endpoint] =>
    some (.discoverGraph endpoint (renderingOf l .markdown))
  | ["graphql", "execute"], [endpoint, query] =>
    some (.execute endpoint query (l.value? "variables") (l.value? "operation-name")
      (l.has "check"))
  | ["init"], [] => some (.init (l.has "force"))
  | ["completions"], [shell] => (Shell.ofText? shell).map .completions
  | _, _ => none

end Command

/-- The file that a command reads a document from, unless it is fetched. -/
def Command.source? : Command → Option String
  | .discover source .. | .find source .. | .validate source .. => some source
  | _ => none

structure Invocation where
  config : Option String := none
  command : Command
deriving DecidableEq, Repr

/-- The files on which the outcome may depend. -/
def Invocation.files (i : Invocation) : List String :=
  Config.fileName :: i.config.toList ++ i.command.source?.toList

def Invocation.read (words : List String) : Except Command.Stop Invocation := do
  let l ← Command.grammar.read words
  match Command.ofLine? l with
  | some command => return { config := l.value? "config", command }
  | none => .error .misuse

example : (Invocation.read ["--config", "a", "init", "--config=b", "--force"]).toOption
    = some ⟨some "b", .init true⟩ := by decide

example : (Invocation.read ["validate", "-p", "a=1", "--param=b=2", "s", "--", "-x"]).toOption
    = some ⟨none, .validate "s" "-x" ["a=1", "b=2"] none {} .yaml⟩ := by decide

example : (Invocation.read ["discover", "s", "--tag", "a", "--tag", "b"]).toOption = none := by
  decide

end ApiAtlas
