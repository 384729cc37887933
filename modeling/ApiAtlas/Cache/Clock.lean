import ApiAtlas.Cache

/-!
A cache with a clock, and a sweeper that cleans it up from time to time. Time can pass in two ways:
`sleep` lets the sweeper run whenever it is due, `advance` moves the clock at once and the sweeper runs
afterwards.
-/
namespace ApiAtlas

structure TimedCache (α : Type) where
  cache : Cache α
  now : Nat := 0
  /-- The time between sweeps. -/
  interval : Nat
  /-- When the next sweep is due, if there is a sweeper. -/
  nextSweep : Option Nat

namespace TimedCache

variable {α : Type}

/-- A cache whose sweeper starts now. An interval of zero starts none. -/
def start (cache : Cache α) (interval : Nat) : TimedCache α where
  cache
  interval
  nextSweep := if interval = 0 then none else some interval

def unswept (cache : Cache α) : TimedCache α := ⟨cache, 0, 0, none⟩

def sweep (t : TimedCache α) (time : Nat) : TimedCache α :=
  { t with cache := t.cache.cleanup time }

/-- A sweep later than this does not catch up with the sweeps before it. -/
def tolerance : Nat := 5

/-- Moves the clock; one sweep runs if it is due. -/
def advance (t : TimedCache α) (span : Nat) : TimedCache α :=
  let now := t.now + span
  let t := { t with now }
  match t.nextSweep with
  | none => t
  | some due =>
    if now < due then t
    else
      { t.sweep now with
        nextSweep := some (if due + tolerance < now then now + t.interval else due + t.interval) }

/-- Lets time pass; the sweeper runs each time it is due, the last sweep being the one that counts. -/
def sleep (t : TimedCache α) (span : Nat) : TimedCache α :=
  let now := t.now + span
  let t := { t with now }
  match t.nextSweep with
  | none => t
  | some due =>
    if now < due then t
    else
      let last := due + (now - due) / t.interval * t.interval
      { t.sweep last with nextSweep := some (last + t.interval) }

def shutdown (t : TimedCache α) : TimedCache α := { t with nextSweep := none }

end TimedCache
end ApiAtlas
