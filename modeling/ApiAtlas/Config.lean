import ApiAtlas.Text.Utf8
import ApiAtlas.Tree.Fields
import ApiAtlas.Document.Schema
import ApiAtlas.Yaml.Reader

/-!
The configuration: how long documents are kept, how they are fetched, and what a request may lack.
`Config.read` reads it from a YAML text, where every field may be missing; `Config.template` is a text
to begin with.
-/
namespace ApiAtlas

structure CacheConfig where
  /-- Seconds for which a document is kept. -/
  ttl : Nat := 900
  maxEntries : Nat := 100
  /-- Seconds between sweeps, as written. -/
  cleanup : Nat := 300
deriving DecidableEq, Repr

structure FetchConfig where
  /-- Seconds within which a server must answer. -/
  timeout : Nat := 30
  userAgent : Option String := none
  /-- Headers sent with every request. -/
  headers : Table String := []
deriving DecidableEq, Repr

structure Leniency where
  /-- Missing parameters, bodies and members. -/
  skipRequired : Bool := false
  /-- Values outside their bounds, lengths, patterns, formats and lists. -/
  skipConstraints : Bool := false
  /-- Values of any type. -/
  skipTypes : Bool := false
  /-- Parameters are converted to their type first. -/
  allowCoercion : Bool := false
deriving DecidableEq, Repr

structure Config where
  cache : CacheConfig := {}
  fetch : FetchConfig := {}
  leniency : Leniency := {}
deriving DecidableEq, Repr

inductive ConfigError where
  | unreadable
  | malformed
deriving DecidableEq, Repr

namespace ConfigError

def message : ConfigError → String
  | .unreadable => "failed to read config"
  | .malformed => "failed to parse config"

def hint : ConfigError → String
  | .unreadable => "Check that the config file exists and is readable."
  | .malformed => "Fix the YAML syntax, or run `apiscout init --force` to regenerate the file."

end ConfigError

open ApiAtlas.Tree Member

namespace CacheConfig

/-- Seconds between sweeps, at least one. -/
def sweepInterval (c : CacheConfig) : Nat := max c.cleanup 1

def read? (t : Tree) : Option CacheConfig := do
  let f ← t.record? ["ttl_secs", "max_entries", "cleanup_interval_secs"] 0
  return {
    ttl := ← defaulted f "ttl_secs" 900 word?
    maxEntries := ← defaulted f "max_entries" 100 word?
    cleanup := ← defaulted f "cleanup_interval_secs" 300 word? }

def toJson (c : CacheConfig) : Json := .obj <|
  always "ttl_secs" (.nat c.ttl) ++ always "max_entries" (.nat c.maxEntries)
  ++ always "cleanup_interval_secs" (.nat c.cleanup)

end CacheConfig

namespace FetchConfig

def read? (t : Tree) : Option FetchConfig := do
  let f ← t.record? ["timeout_secs", "user_agent", "headers"] 0
  return {
    timeout := ← defaulted f "timeout_secs" 30 word?
    userAgent := ← optional f "user_agent" text?
    headers := ← defaulted f "headers" [] (table? text?) }

def toJson (c : FetchConfig) : Json := .obj <|
  always "timeout_secs" (.nat c.timeout)
  ++ always "user_agent" ((c.userAgent.map Json.str).getD .null)
  ++ always "headers" (.obj (c.headers.map fun (k, v) => (k, .str v)))

end FetchConfig

namespace Leniency

def read? (t : Tree) : Option Leniency := do
  let f ← t.record? ["skip_required", "skip_constraints", "skip_type_checking", "allow_coercion"] 0
  return {
    skipRequired := ← defaulted f "skip_required" false bool?
    skipConstraints := ← defaulted f "skip_constraints" false bool?
    skipTypes := ← defaulted f "skip_type_checking" false bool?
    allowCoercion := ← defaulted f "allow_coercion" false bool? }

def toJson (l : Leniency) : Json := .obj <|
  always "skip_required" (.bool l.skipRequired)
  ++ always "skip_constraints" (.bool l.skipConstraints)
  ++ always "skip_type_checking" (.bool l.skipTypes)
  ++ always "allow_coercion" (.bool l.allowCoercion)

end Leniency

namespace Config

def read? (t : Tree) : Option Config := do
  let f ← t.record? ["cache", "fetch", "validation"] 0
  return {
    cache := ← defaulted f "cache" {} CacheConfig.read?
    fetch := ← defaulted f "fetch" {} FetchConfig.read?
    leniency := ← defaulted f "validation" {} Leniency.read? }

def toJson (c : Config) : Json := .obj <|
  always "cache" c.cache.toJson ++ always "fetch" c.fetch.toJson
  ++ always "validation" c.leniency.toJson

/-- The configuration in the bytes of a YAML text. -/
def read (bytes : List Char) : Except ConfigError Config :=
  match Utf8.decode? bytes with
  | none => .error .unreadable
  | some _ =>
    match (Yaml.readTree? bytes).bind read? with
    | some c => .ok c
    | none => .error .malformed

def fileName : String := ".apiscout.yaml"

/-- The lines of a configuration with the defaults written out. -/
def templateLines : List String := [
  "# apiscout configuration",
  "cache:",
  "  ttl_secs: 900               # how long a fetched document stays fresh",
  "  max_entries: 100            # oldest-expiring entry is evicted beyond this",
  "  cleanup_interval_secs: 300  # background sweep cadence",
  "",
  "fetch:",
  "  timeout_secs: 30",
  "  # user_agent: apiscout/0.3",
  "  headers: \x7b\x7d",
  "    # Authorization: Bearer <token>",
  "",
  "validation:",
  "  skip_required: false",
  "  skip_constraints: false",
  "  skip_type_checking: false",
  "  allow_coercion: false      # convert \"5\" to 5 etc. before checking types"]

def template : String := String.join (templateLines.map (· ++ "\n"))

end Config
end ApiAtlas
