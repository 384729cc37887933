import ApiAtlas.Command
import ApiAtlas.Command.Fault
import ApiAtlas.Discovery.Markdown
import ApiAtlas.Graph.Explorer
import ApiAtlas.Graph.Markdown
import ApiAtlas.Yaml.Printer

/-!
What commands do. A run reads files and asks servers through a `World`, and comes to what is
printed, what is written to a file, and the fault if there is one. All of it happens at one point of
time.
-/
namespace ApiAtlas.Command

structure World where
  /-- The bytes of a file. -/
  file : String → Except FileProblem (List Char)
  net : Network

structure Run where
  out : String := ""
  /-- Remarks beside the output, one a line. -/
  notes : List String := []
  /-- The name and the new content of a file. -/
  written : Option (String × String) := none
  fault : Option Fault := none

namespace Run

def code (r : Run) : Nat := (r.fault.map Fault.code).getD 0

def err (r : Run) : String :=
  String.join (r.notes.map (· ++ "\n")) ++ (r.fault.map Fault.text).getD ""

/-- Prints data; what has no Markdown of its own is printed as YAML. -/
def ofData (rendering : Rendering) (d : Data) : Run :=
  match rendering with
  | .json => { out := d.toJson.pretty ++ "\n" }
  | .yaml | .markdown =>
    match Yaml.write? d with
    | some text => { out := text }
    | none => { fault := some .nestedVariant }

def ofAttempt : Except Fault Run → Run
  | .ok r => r
  | .error f => { fault := some f }

end Run

namespace World

/-- The configuration of a file, or the default one if no file is named and none is there. -/
def loadConfig (w : World) (path : Option String) : Except Fault Config :=
  let name := path.getD Config.fileName
  match w.file name, path with
  | .error .missing, some _ => .error (.noConfig name)
  | .error .missing, none => .ok {}
  | .error p, _ => .error (.configFile name p)
  | .ok bytes, _ => (Config.read bytes).mapError (.config name)

/-- Whether a document is to be fetched. -/
def isRemote (source : String) : Bool :=
  "http://".toList.isPrefixOf source.toList || "https://".toList.isPrefixOf source.toList

/-- An explorer that has read a document if it is a file. -/
def explorerFor (w : World) (c : Config) (source : String) : Except Fault Explorer := do
  let x ← (Explorer.ofConfig c).mapError fun e => .explorer (.fetch e)
  if isRemote source then return x
  let bytes ← (w.file source).mapError (.source source)
  match x.loadBytes 0 source bytes with
  | (.ok _, x) => return x
  | (.error e, _) => .error (.explorer e)

def answer (r : Except Failure α × Explorer) : Except Fault α := r.1.mapError .explorer

/-- What to say if no endpoint has a tag. -/
def tagNotes (o : Overview) (tag : String) : List String :=
  if (o.restrict tag).endpoints.isEmpty then
    ["No operations tagged " ++ tag ++ ". Tags: " ++ ", ".intercalate o.tags]
  else []

def showOverview (rendering : Rendering) (o : Overview) : Run :=
  match rendering with
  | .markdown => { out := o.markdown }
  | other => .ofData other o.toData

def discover (w : World) (c : Config) (source : String) (rendering : Rendering)
    (tag : Option String) : Except Fault Run := do
  let x ← w.explorerFor c source
  let o ← answer (x.discover w.net 0 source)
  match tag with
  | none => return showOverview rendering o
  | some tag => return { showOverview rendering (o.restrict tag) with notes := tagNotes o tag }

def find (w : World) (c : Config) (source method path : String) (rendering : Rendering) :
    Except Fault Run := do
  let x ← w.explorerFor c source
  let e ← answer (x.find w.net 0 source method path)
  return .ofData rendering e.toData

/-- A parameter of the form name=value. A value that is no JSON is a text. -/
def param? (s : String) : Option (String × Json) :=
  let name := s.toList.takeWhile (· ≠ '=')
  match s.toList.drop name.length with
  | _ :: rest =>
    let value := String.ofList rest
    some (String.ofList name, (Json.read? value).getD (.str value))
  | [] => none

/-- All parameters; of one name the last one counts. -/
def params (texts : List String) : Except Fault (Table Json) :=
  texts.foldlM (fun known s =>
    match param? s with
    | some (name, value) => .ok (Json.insertMember name value known)
    | none => .error (.parameter s)) []

/-- The value of a JSON text on the line. -/
def given (what text : String) : Except Fault Json :=
  match Json.read? text with
  | some v => .ok v
  | none => .error (.notJson what)

def lenient (a b : Leniency) : Leniency where
  skipRequired := a.skipRequired || b.skipRequired
  skipConstraints := a.skipConstraints || b.skipConstraints
  skipTypes := a.skipTypes || b.skipTypes
  allowCoercion := a.allowCoercion || b.allowCoercion

def showReport (rendering : Rendering) (r : Report) : Run :=
  let shown := Run.ofData rendering (.value r.toJson)
  if r.valid then shown else { shown with fault := some (.invalid r.guidance.summary) }

def validate (w : World) (c : Config) (source id : String) (texts : List String)
    (body : Option String) (l : Leniency) (rendering : Rendering) : Except Fault Run := do
  let supplied ← params texts
  let body ← body.mapM (given "request body")
  let x ← w.explorerFor c source
  let (report, _) ← answer <|
    x.validate w.net 0 source id (some (lenient l c.leniency)) supplied body
  return showReport rendering report

def graphExplorer (c : Config) : Except Fault Graph.Explorer :=
  (Graph.Explorer.ofConfig c).mapError fun e => .graph (.fetch e)

def discoverGraph (w : World) (c : Config) (endpoint : String) (rendering : Rendering) :
    Except Fault Run := do
  let x ← graphExplorer c
  let catalog ← (x.discover w.net 0 endpoint).1.mapError .graph
  match rendering with
  | .markdown => return { out := catalog.markdown }
  | other => return .ofData other (.value catalog.toJson)

/-- The members of the object in a text. -/
def members (what text : String) : Except Fault (Table Json) := do
  match ← given what text with
  | .obj ms => return ms
  | _ => .error (.notObject what)

/-- An explorer that has the catalog of an endpoint if queries are to be checked. -/
def primed (w : World) (x : Graph.Explorer) (endpoint : String) (check : Bool) :
    Except Fault Graph.Explorer :=
  if check then
    match x.discover w.net 0 endpoint with
    | (.ok _, x) => .ok x
    | (.error e, _) => .error (.graph e)
  else .ok x

def execute (w : World) (c : Config) (endpoint query : String)
    (vars name : Option String) (check : Bool) : Except Fault Run := do
  let vars ← vars.mapM (members "variables")
  let x ← w.primed (← graphExplorer c) endpoint check
  let response ← (x.execute w.net 0 endpoint query vars name).mapError .graph
  return { out := response.toJson.pretty ++ "\n"
           notes := (Graph.Advice.ofResponse response).map fun a => "hint: " ++ a.text }

def init (w : World) (force : Bool) : Except Fault Run :=
  match w.file Config.fileName, force with
  | .error .missing, _ | _, true => .ok {
      written := some (Config.fileName, Config.template)
      notes := ["Created " ++ Config.fileName] }
  | _, false => .error .configExists

end World

def firstWords : String :=
  match grammar with
  | .group _ commands => " ".intercalate (commands.map (·.1))
  | .command .. => ""

/-- A script that completes the first word. -/
def script : Shell → String
  | .bash => "complete -W \"" ++ firstWords ++ "\" apiscout\n"
  | .elvish => "set edit:completion:arg-completer[apiscout] = \x7b|@words| put " ++ firstWords
    ++ " \x7d\n"
  | .fish => "complete -c apiscout -n __fish_use_subcommand -a \"" ++ firstWords ++ "\"\n"
  | .powershell => "Register-ArgumentCompleter -Native -CommandName apiscout -ScriptBlock \x7b \""
    ++ firstWords ++ "\".Split(' ') \x7d\n"
  | .zsh => "#compdef apiscout\ncompadd " ++ firstWords ++ "\n"

namespace World

def attempt (w : World) (c : Config) : Command → Except Fault Run
  | .discover source rendering tag => w.discover c source rendering tag
  | .find source method path rendering => w.find c source method path rendering
  | .validate source id texts body l rendering => w.validate c source id texts body l rendering
  | .discoverGraph endpoint rendering => w.discoverGraph c endpoint rendering
  | .execute endpoint query vars name check => w.execute c endpoint query vars name check
  | .init force => w.init force
  | .completions shell => .ok { out := script shell }

def run (w : World) (i : Invocation) : Run :=
  .ofAttempt do w.attempt (← w.loadConfig i.config) i.command

end World

def Run.ofStop : Stop → Run
  | .help => { out := String.join ((grammar.usage "apiscout").map (· ++ "\n")) }
  | .version => { out := "apiscout 0.3.0\n" }
  | .misuse => { fault := some .misuse }

def World.runLine (w : World) (words : List String) : Run :=
  match Invocation.read words with
  | .ok i => w.run i
  | .error why => .ofStop why

end ApiAtlas.Command
