import ApiAtlas.Explorer
import ApiAtlas.Graph.Failure

/-!
Why a command fails. A fault is told in one headline, with what lies behind it listed below;
failures of explorers are told by what to do about them.
-/
namespace ApiAtlas.Command

inductive FileProblem where
  | missing
  | other (reason : String)
deriving DecidableEq, Repr

def FileProblem.message : FileProblem → String
  | .missing => "No such file or directory (os error 2)"
  | .other reason => reason

inductive Fault where
  /-- The command line has no meaning. -/
  | misuse
  | explorer (e : Failure)
  | graph (e : Graph.Failure)
  /-- The configuration file that the line names is not there. -/
  | noConfig (path : String)
  | configFile (path : String) (p : FileProblem)
  | config (path : String) (e : ConfigError)
  | source (name : String) (p : FileProblem)
  /-- A parameter without an equals sign. -/
  | parameter (text : String)
  | notJson (what : String)
  | notObject (what : String)
  /-- The request is not valid. -/
  | invalid (summary : String)
  /-- A configuration file is there already. -/
  | configExists
  /-- A variant directly inside a variant, which YAML cannot tell. -/
  | nestedVariant
deriving DecidableEq, Repr

namespace Fault

/-- The account of a failure for which there is a hint. -/
def hinted (hint message : String) (causes : List String) : String × List String :=
  ("hint: " ++ hint, message :: causes)

def badConfig (path : String) (e : ConfigError) (reason : Option String) : String × List String :=
  let what := e.message ++ " " ++ path
  match reason with
  | some r => hinted e.hint (what ++ ": " ++ r) [r]
  | none => hinted e.hint what []

/-- The headline and what lies behind it. -/
def account : Fault → String × List String
  | .misuse => ("this command line has no meaning, see `apiscout --help`", [])
  | .explorer e => hinted e.hint e.message e.causes
  | .graph e => hinted e.advice e.message e.causes
  | .noConfig path => ("config file " ++ path ++ " not found", [])
  | .configFile path p => badConfig path .unreadable (some p.message)
  | .config path .unreadable =>
    badConfig path .unreadable (some "stream did not contain valid UTF-8")
  | .config path .malformed => badConfig path .malformed none
  | .source name p => ("failed to read " ++ name, [p.message])
  | .parameter text => ("parameter '" ++ text ++ "' is not in NAME=VALUE form", [])
  | .notJson what => (what ++ " is not valid JSON", [])
  | .notObject what => (what ++ " must be a JSON object", [])
  | .invalid summary => (summary, [])
  | .configExists => (Config.fileName ++ " already exists. Use --force to overwrite.", [])
  | .nestedVariant => ("serializing nested enums in YAML is not supported yet", [])

/-- A text whose lines but the first have a margin. -/
def indented (margin : Nat) (s : String) : String :=
  ("\n" ++ String.ofList (List.replicate margin ' ')).intercalate (fields '\n' s)

/-- The list of causes; they are numbered if there are several. -/
def causesText : List String → String
  | [] => ""
  | [c] => "\n\nCaused by:\n    " ++ indented 4 c
  | cs => "\n\nCaused by:" ++ String.join (cs.zipIdx.map fun (c, i) =>
      "\n    " ++ toString i ++ ": " ++ indented 7 c)

def text (f : Fault) : String := "Error: " ++ f.account.1 ++ causesText f.account.2 ++ "\n"

/-- The exit code; a clock that overflows breaks the program off. -/
def code : Fault → Nat
  | .misuse => 2
  | .explorer .clock | .graph .clock => 101
  | _ => 1

example : (source "a" .missing).text
    = "Error: failed to read a\n\nCaused by:\n    No such file or directory (os error 2)\n" := by
  decide

end Fault
end ApiAtlas.Command
