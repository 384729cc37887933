import ApiAtlas.Document
import ApiAtlas.Json.Reader
import ApiAtlas.Text.Blank
import ApiAtlas.Yaml.Reader

/-!
Reading documents from text. A document must declare a supported version, a title, a version of its
own, and some content; the first of these that fails is the error.
-/
namespace ApiAtlas

/-- Why a text is no document. -/
inductive DocumentError where
  | json
  | yaml
  /-- Neither JSON nor YAML; with the label of the text. -/
  | unparseable (origin : String)
  | unsupportedVersion (version : String)
  | missingField (name : String)
  | noContent
deriving DecidableEq, Repr

namespace DocumentError

def message : DocumentError → String
  | .json => "failed to parse JSON"
  | .yaml => "failed to parse YAML"
  | .unparseable origin => "failed to parse " ++ origin ++ " as JSON or as YAML"
  | .unsupportedVersion version => "malformed specification: unsupported OpenAPI version " ++ version
  | .missingField name => "malformed specification: missing required field " ++ name
  | .noContent => "malformed specification: no paths, components or webhooks declared"

def hint : DocumentError → String
  | .json | .yaml | .unparseable _ =>
    "Check that the URL points at the raw OpenAPI document and not an HTML page."
  | .unsupportedVersion _ =>
    "Only OpenAPI 3.0, 3.1 and 3.2 documents are supported. Convert Swagger 2.0 documents first."
  | .missingField _ => "The document must declare `openapi`, `info.title` and `info.version`."
  | .noContent => "The document must declare at least one of `paths`, `components` or `webhooks`."

end DocumentError

namespace Document

/-- Major version 3 with one of the minor versions 0, 1 and 2; what follows is free. -/
def supportsVersion (version : String) : Bool :=
  match fields '.' (trim version) with
  | "3" :: minor :: _ => minor = "0" ∨ minor = "1" ∨ minor = "2"
  | _ => false

def isBlankText (s : String) : Bool := (trim s).isEmpty

/-- Checks what every document must declare. -/
def check (d : Document) : Except DocumentError Document :=
  if isBlankText d.openapi then .error (.missingField "openapi")
  else if !supportsVersion d.openapi then .error (.unsupportedVersion d.openapi)
  else if isBlankText d.info.title then .error (.missingField "info.title")
  else if isBlankText d.info.version then .error (.missingField "info.version")
  else if d.paths.isEmpty && d.components.isNone && d.webhooks.isEmpty then .error .noContent
  else .ok d

def ofJson? (bytes : List Char) : Option Document := (Json.readTree? bytes).bind ofTree?

def ofYaml? (bytes : List Char) : Option Document := (Yaml.readTree? bytes).bind ofTree?

def readJson (bytes : List Char) : Except DocumentError Document :=
  match ofJson? bytes with
  | some d => d.check
  | none => .error .json

def readYaml (bytes : List Char) : Except DocumentError Document :=
  match ofYaml? bytes with
  | some d => d.check
  | none => .error .yaml

/-- A document in either format. A text that is a document as JSON is not tried as YAML; `origin`
labels the text in an error. -/
def read (bytes : List Char) (origin : String) : Except DocumentError Document :=
  match (ofJson? bytes).or (ofYaml? bytes) with
  | some d => d.check
  | none => .error (.unparseable origin)

end Document
end ApiAtlas
