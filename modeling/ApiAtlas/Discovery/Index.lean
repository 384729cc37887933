import ApiAtlas.Discovery.Endpoint

/-! Endpoints filed by method and path, and by tag. -/
namespace ApiAtlas

structure Index where
  endpoints : List Endpoint := []
  byKey : Table Endpoint := []
  byTag : Table (List Endpoint) := []

namespace Index

/-- The tag of endpoints that have none. -/
def untagged : String := "untagged"

/-- Files an endpoint under a tag, behind those already there. -/
def fileUnder (table : Table (List Endpoint)) (tag : String) (e : Endpoint) :
    Table (List Endpoint) :=
  table.put tag ((table.get? tag).getD [] ++ [e])

/-- The tags under which an endpoint is filed. -/
def tagsOf (e : Endpoint) : List String := if e.tags.isEmpty then [untagged] else e.tags

/-- Whether an endpoint is listed for a tag; `untagged` lists those that have none. -/
def lists (tag : String) (e : Endpoint) : Bool :=
  if tag = untagged then e.tags.isEmpty else e.tags.contains tag

def add (i : Index) (e : Endpoint) : Index where
  endpoints := i.endpoints ++ [e]
  byKey := i.byKey.put e.key e
  byTag := (tagsOf e).foldl (fun table tag => fileUnder table tag e) i.byTag

def build (endpoints : List Endpoint) : Index := endpoints.foldl add {}

/-- The endpoint of a method, in any case, and a path exactly as declared. -/
def get? (i : Index) (method path : String) : Option Endpoint :=
  i.byKey.get? (Endpoint.keyOf method path)

def contains (i : Index) (method path : String) : Bool := (i.get? method path).isSome

def withTag (i : Index) (tag : String) : List Endpoint := (i.byTag.get? tag).getD []

def withPathStart (i : Index) (start : String) : List Endpoint :=
  i.endpoints.filter fun e => start.toList.isPrefixOf e.path.toList

def deprecated (i : Index) : List Endpoint := i.endpoints.filter (·.deprecated)

def tags (i : Index) : List String := i.byTag.keys.mergeSort fun a b => a ≤ b

def size (i : Index) : Nat := i.byKey.length

end Index
end ApiAtlas
