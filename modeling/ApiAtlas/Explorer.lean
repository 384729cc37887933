import ApiAtlas.Cache
import ApiAtlas.Document.Read
import ApiAtlas.Fetch
import ApiAtlas.Validation

/-!
Explorers answer questions about documents by address. A document is fetched when it is first needed
and then kept for a while, together with what it offers; only documents that could be read and resolved
are kept.
-/
namespace ApiAtlas

/-- A document and what it offers. -/
structure Spec where
  document : Document
  discovery : Discovery

/-- Why a question has no answer. -/
inductive Failure where
  | fetch (e : FetchError)
  | document (e : DocumentError)
  | reference (e : ReferenceError)
  | lookup (e : LookupError)
  /-- The time until which a document would be kept is beyond the clock. -/
  | clock
deriving DecidableEq, Repr

namespace Failure

def message : Failure → String
  | .fetch e => e.message
  | .document e => e.message
  | .reference e => e.message
  | .lookup e => e.message
  | .clock => clockOverflow

def causes : Failure → List String
  | .fetch e => e.causes
  | _ => []

def hint : Failure → String
  | .fetch e => e.hint
  | .document e => e.hint
  | .reference e => e.hint
  | .lookup e => e.hint
  | .clock => ""

end Failure

namespace Spec

/-- The document in some bytes, with its references resolved. -/
def ofBytes (source : String) (bytes : List Char) : Except Failure Spec :=
  match Document.read bytes source with
  | .error e => .error (.document e)
  | .ok d =>
    match Discovery.ofDocument d with
    | .error e => .error (.reference e)
    | .ok discovery => .ok ⟨d, discovery⟩

end Spec

/-- The cache that a configuration asks for. -/
def CacheConfig.newCache (c : CacheConfig) : Cache α := .empty (c.ttl * 1000) c.maxEntries

structure Explorer where
  client : Client
  leniency : Leniency := {}
  cache : Cache Spec

namespace Explorer

def ofConfig (c : Config) : Except FetchError Explorer := do
  return { client := ← Client.ofConfig c.fetch, leniency := c.leniency, cache := c.cache.newCache }

/-- Keeps a document under an address, if the clock goes that far. -/
def keep (x : Explorer) (now : Nat) (url : String) (spec : Spec) : Except Failure Spec × Explorer :=
  let (stored, cache) := x.cache.trySetFor now url spec x.cache.ttl
  (if stored then .ok spec else .error .clock, { x with cache })

def loadBytes (x : Explorer) (now : Nat) (url : String) (bytes : List Char) :
    Except Failure Spec × Explorer :=
  match Spec.ofBytes url bytes with
  | .error e => (.error e, x)
  | .ok spec => x.keep now url spec

section By

variable {m : Type → Type} [Monad m] (fetch : Request → m (Except FetchError (List Char)))

/-- The document of an address. It is fetched in the way that is given unless it is kept. -/
def loadBy (now : Nat) (url : String) : StateT Explorer m (Except Failure Spec) := do
  let x ← get
  match x.cache.get? now url with
  | some spec => return .ok spec
  | none =>
    match ← fetch (x.client.documentRequest url) with
    | .error e => return .error (.fetch e)
    | .ok bytes => modifyGet (·.loadBytes now url bytes)

/-- What follows from the document of an address. -/
def askBy {α : Type} (now : Nat) (url : String) (question : Discovery → Except LookupError α) :
    StateT Explorer m (Except Failure α) := do
  match ← loadBy fetch now url with
  | .error e => return .error e
  | .ok spec => return (question spec.discovery).mapError .lookup

def discoverBy (now : Nat) (url : String) : StateT Explorer m (Except Failure Overview) :=
  askBy fetch now url fun d => .ok d.overview

def findBy (now : Nat) (url method path : String) : StateT Explorer m (Except Failure Endpoint) :=
  askBy fetch now url fun d => d.find method path

/-- Validates a request, as leniently as configured unless told otherwise. -/
def validateBy (now : Nat) (url id : String) (leniency : Option Leniency) (params : Table Json)
    (body : Option Json) : StateT Explorer m (Except Failure (Report × Table Json)) := do
  let x ← get
  askBy fetch now url fun d => d.validate id (leniency.getD x.leniency) params body

def validateResponseBy (now : Nat) (url id status : String) (body : Option Json) :
    StateT Explorer m (Except Failure FieldReport) :=
  askBy fetch now url fun d => d.validateResponse id status body

end By

/-- Runs a call with the replies of a network. -/
def through {α : Type} (x : Explorer) (client : Client) (net : Network)
    (call : (Request → Id (Except FetchError (List Char))) → StateT Explorer Id α) : α × Explorer :=
  ((call fun r => pure (client.send net r)).run x).run

def loadWithin (x : Explorer) (limit : Nat) (net : Network) (now : Nat) (url : String) :
    Except Failure Spec × Explorer :=
  x.through { x.client with timeout := limit } net (loadBy · now url)

def load (x : Explorer) (net : Network) (now : Nat) (url : String) :
    Except Failure Spec × Explorer :=
  x.loadWithin x.client.timeout net now url

def discover (x : Explorer) (net : Network) (now : Nat) (url : String) :
    Except Failure Overview × Explorer :=
  x.through x.client net (discoverBy · now url)

def find (x : Explorer) (net : Network) (now : Nat) (url method path : String) :
    Except Failure Endpoint × Explorer :=
  x.through x.client net (findBy · now url method path)

def validate (x : Explorer) (net : Network) (now : Nat) (url id : String)
    (leniency : Option Leniency) (params : Table Json) (body : Option Json) :
    Except Failure (Report × Table Json) × Explorer :=
  x.through x.client net (validateBy · now url id leniency params body)

def validateResponse (x : Explorer) (net : Network) (now : Nat) (url id status : String)
    (body : Option Json) : Except Failure FieldReport × Explorer :=
  x.through x.client net (validateResponseBy · now url id status body)

def invalidate (x : Explorer) (url : String) : Bool × Explorer :=
  (x.cache.has url, { x with cache := x.cache.invalidate url })

end Explorer
end ApiAtlas
