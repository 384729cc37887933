/-!
Caches whose entries expire. An entry is live until its expiry; what has expired is not found any more,
but stays stored until a cleanup. A full cache makes room for a new key by dropping the entry that
expires first. Times are milliseconds on one clock, and each operation is told the time. The clock has an
end, and nothing can be stored whose expiry lies behind it.
-/
namespace ApiAtlas

/-- The end of the clock, whose seconds are signed words of 64 bits. -/
def clockEnd : Nat := Nat.pow 2 63 * 1000

def clockOverflow : String := "overflow when adding duration to instant"

structure CacheEntry (α : Type) where
  key : String
  value : α
  expiry : Nat

structure Cache (α : Type) where
  /-- How long an entry lives by default. -/
  ttl : Nat
  /-- The number of entries that fit. -/
  capacity : Nat
  entries : List (CacheEntry α) := []

structure CacheStats where
  total : Nat
  active : Nat
  expired : Nat
deriving DecidableEq, Repr

namespace Cache

variable {α : Type}

/-- An empty cache, with room for one entry at least. -/
def empty (ttl maxEntries : Nat) : Cache α := ⟨ttl, max maxEntries 1, []⟩

def isLive (now : Nat) (e : CacheEntry α) : Bool := decide (now < e.expiry)

def find? (entries : List (CacheEntry α)) (key : String) : Option (CacheEntry α) :=
  entries.find? (·.key = key)

def has (c : Cache α) (key : String) : Bool := (find? c.entries key).isSome

/-- The value of a key that has not expired. -/
def get? (c : Cache α) (now : Nat) (key : String) : Option α :=
  ((find? c.entries key).filter (isLive now)).map (·.value)

/-- The entry that expires first, the earliest of several. -/
def soonest? : List (CacheEntry α) → Option (CacheEntry α)
  | [] => none
  | e :: rest =>
    match soonest? rest with
    | some other => if other.expiry < e.expiry then some other else some e
    | none => some e

def erase (entries : List (CacheEntry α)) (key : String) : List (CacheEntry α) :=
  entries.filter (·.key ≠ key)

def invalidate (c : Cache α) (key : String) : Cache α := { c with entries := erase c.entries key }

def makeRoom (c : Cache α) (key : String) : Cache α :=
  if !c.has key && decide (c.capacity ≤ c.entries.length) then
    match soonest? c.entries with
    | some e => c.invalidate e.key
    | none => c
  else c

def put (c : Cache α) (key : String) (value : α) (expiry : Nat) : Cache α :=
  { c with entries := ⟨key, value, expiry⟩ :: erase c.entries key }

/-- Whether the clock shows the time at which an entry stored now for a while expires. -/
def reaches (now ttl : Nat) : Bool := decide (now + ttl < clockEnd)

def putFor (c : Cache α) (now : Nat) (key : String) (value : α) (ttl : Nat) : Bool × Cache α :=
  if reaches now ttl then (true, c.put key value (now + ttl)) else (false, c)

/-- Stores a value for a while, and says whether the clock goes that far. Room is made in either case. -/
def trySetFor (c : Cache α) (now : Nat) (key : String) (value : α) (ttl : Nat) : Bool × Cache α :=
  (c.makeRoom key).putFor now key value ttl

def setFor (c : Cache α) (now : Nat) (key : String) (value : α) (ttl : Nat) : Cache α :=
  (c.trySetFor now key value ttl).2

def set (c : Cache α) (now : Nat) (key : String) (value : α) : Cache α :=
  c.setFor now key value c.ttl

def clear (c : Cache α) : Cache α := { c with entries := [] }

def cleanup (c : Cache α) (now : Nat) : Cache α :=
  { c with entries := c.entries.filter (isLive now) }

def size (c : Cache α) : Nat := c.entries.length

def dropped (c : Cache α) (now : Nat) : Nat := c.size - (c.cleanup now).size

def stats (c : Cache α) (now : Nat) : CacheStats :=
  let active := c.entries.countP (isLive now)
  ⟨c.size, active, c.size - active⟩

end Cache
end ApiAtlas
