import ApiAtlas.Cache
import Mathlib.Data.Set.Card
import Mathlib.Logic.Function.Basic

/-! Stores that know live entries only. Time ends a binding, and a new key takes the place of one of the
bindings that end first if all places are taken; which one of several is left open. A binding that would end
when there is no clock any more is not made, but takes the place all the same. A run in which no two bindings
end at the same time leaves nothing open. -/
namespace ApiAtlas

inductive CacheAnswer (α : Type) where
  | found (value : Option α)
  | overflow
deriving DecidableEq

/-- The time, and what is bound to a key with the time at which that ends. -/
@[ext]
structure LiveStore (α : Type) where
  now : Nat
  bound : String → Option (α × Nat)

namespace LiveStore

variable {α : Type}

inductive Action (α : Type) where
  | set (key : String) (value : α) (ttl : Nat)
  | get (key : String)
  | invalidate (key : String)
  | clear
  | pass (span : Nat)

def keys (s : LiveStore α) : Set String := {key | s.bound key ≠ none}

def unbind (s : LiveStore α) (key : String) : LiveStore α :=
  { s with bound := Function.update s.bound key none }

/-- A binding that ends now or has ended binds nothing. -/
def bindUntil (s : LiveStore α) (key : String) (value : α) (expiry : Nat) : LiveStore α :=
  { s with bound := Function.update s.bound key (if s.now < expiry then some (value, expiry) else none) }

def clear (s : LiveStore α) : LiveStore α := { s with bound := fun _ => none }

def pass (s : LiveStore α) (span : Nat) : LiveStore α where
  now := s.now + span
  bound key := (s.bound key).filter fun b => s.now + span < b.2

/-- No binding ends before that of a key. -/
def Soonest (s : LiveStore α) (key : String) : Prop :=
  ∃ value expiry, s.bound key = some (value, expiry) ∧
    ∀ other w end_, s.bound other = some (w, end_) → expiry ≤ end_

inductive MakesRoom (s : LiveStore α) (room : Nat) (key : String) : LiveStore α → Prop
  | free : s.bound key ≠ none ∨ s.keys.ncard < room → MakesRoom s room key s
  | evicts {victim} : s.bound key = none → room ≤ s.keys.ncard → s.Soonest victim →
    MakesRoom s room key (s.unbind victim)

inductive Step (room : Nat) : Action α → LiveStore α → List (CacheAnswer α) → LiveStore α → Prop
  | binds {s r key value ttl} : s.MakesRoom room key r → s.now + ttl < clockEnd →
    Step room (.set key value ttl) s [] (r.bindUntil key value (s.now + ttl))
  | overflows {s r key value ttl} : s.MakesRoom room key r → clockEnd ≤ s.now + ttl →
    Step room (.set key value ttl) s [.overflow] r
  | get {s key} : Step room (.get key) s [.found ((s.bound key).map (·.1))] s
  | invalidate {s key} : Step room (.invalidate key) s [] (s.unbind key)
  | clear {s} : Step room .clear s [] s.clear
  | pass {s span} : Step room (.pass span) s [] (s.pass span)

inductive Run (room : Nat) : List (Action α) → LiveStore α → List (CacheAnswer α) → LiveStore α → Prop
  | nil {s} : Run room [] s [] s
  | cons {a rest s t u out outs} : Step room a s out t → Run room rest t outs u →
    Run room (a :: rest) s (out ++ outs) u

/-- The times at which the bindings that some actions make from a time on end. -/
def expiries : Nat → List (Action α) → List Nat
  | _, [] => []
  | now, .set _ _ ttl :: rest =>
    if now + ttl < clockEnd then (now + ttl) :: expiries now rest else expiries now rest
  | now, .pass span :: rest => expiries (now + span) rest
  | now, .get _ :: rest | now, .invalidate _ :: rest | now, .clear :: rest => expiries now rest

def Apart (s : LiveStore α) : Prop :=
  ∀ k l v w expiry, s.bound k = some (v, expiry) → s.bound l = some (w, expiry) → k = l

/-- No binding ends at one of some times. -/
def Avoids (s : LiveStore α) (times : List Nat) : Prop :=
  ∀ key value expiry, s.bound key = some (value, expiry) → expiry ∉ times

def Sub (s t : LiveStore α) : Prop := ∀ key b, s.bound key = some b → t.bound key = some b

variable {s t r : LiveStore α} {room : Nat} {key : String} {value : α} {times : List Nat}

theorem Sub.apart (sub : s.Sub t) (apart : t.Apart) : s.Apart :=
  fun k l v w expiry first second => apart k l v w expiry (sub k _ first) (sub l _ second)

theorem Sub.avoids (sub : s.Sub t) (avoids : t.Avoids times) : s.Avoids times :=
  fun key value expiry found => avoids key value expiry (sub key _ found)

theorem unbind_sub (s : LiveStore α) (key : String) : (s.unbind key).Sub s := by
  intro k b found
  by_cases same : k = key
  · subst same
    simp [unbind] at found
  · simpa [unbind, same] using found

theorem clear_sub (s : LiveStore α) : s.clear.Sub s := fun _ _ found => nomatch found

theorem pass_sub (s : LiveStore α) (span : Nat) : (s.pass span).Sub s :=
  fun _ _ found => (Option.filter_eq_some_iff.mp found).1

theorem bindUntil_self {expiry : Nat} : (s.bindUntil key value expiry).bound key =
    if s.now < expiry then some (value, expiry) else none :=
  Function.update_self ..

theorem bindUntil_of_ne {expiry : Nat} {k : String} (apart : k ≠ key) :
    (s.bindUntil key value expiry).bound k = s.bound k :=
  Function.update_of_ne apart ..

theorem bindUntil_eq_some {expiry : Nat} {k : String} {b : α × Nat}
    (found : (s.bindUntil key value expiry).bound k = some b) :
    (k = key ∧ b = (value, expiry)) ∨ s.bound k = some b := by
  by_cases same : k = key
  · subst same
    rw [bindUntil_self] at found
    split at found
    · exact .inl ⟨rfl, (Option.some.inj found).symm⟩
    · contradiction
  · exact .inr (bindUntil_of_ne same ▸ found)

theorem Apart.bindUntil {expiry : Nat} (apart : s.Apart) (avoids : s.Avoids (expiry :: times)) :
    (s.bindUntil key value expiry).Apart := by
  intro k l v w x first second
  have fresh {m : String} {u : α} (found : s.bound m = some (u, expiry)) : False :=
    avoids m u expiry found List.mem_cons_self
  rcases bindUntil_eq_some first with ⟨rfl, same⟩ | old
  · obtain ⟨-, rfl⟩ := Prod.mk.inj same
    rcases bindUntil_eq_some second with ⟨rfl, -⟩ | old
    · rfl
    · exact (fresh old).elim
  · rcases bindUntil_eq_some second with ⟨rfl, same⟩ | old'
    · obtain ⟨-, rfl⟩ := Prod.mk.inj same
      exact (fresh old).elim
    · exact apart k l v w x old old'

theorem Avoids.bindUntil {expiry : Nat} (avoids : s.Avoids (expiry :: times)) (fresh : expiry ∉ times) :
    (s.bindUntil key value expiry).Avoids times := by
  intro k v x found
  rcases bindUntil_eq_some found with ⟨-, same⟩ | old
  · obtain ⟨-, rfl⟩ := Prod.mk.inj same
    exact fresh
  · exact fun later => avoids k v x old (List.mem_cons_of_mem _ later)

/-- Where no two bindings end together, one key alone can be the soonest. -/
theorem Soonest.unique {first second : String} (apart : s.Apart) (one : s.Soonest first)
    (two : s.Soonest second) : first = second := by
  obtain ⟨v, x, here, least⟩ := one
  obtain ⟨w, y, there, least'⟩ := two
  have same : x = y := Nat.le_antisymm (least _ _ _ there) (least' _ _ _ here)
  exact apart first second v w x here (same ▸ there)

theorem MakesRoom.sub (makes : s.MakesRoom room key r) : r.Sub s := by
  cases makes with
  | free => exact fun _ _ found => found
  | evicts => exact s.unbind_sub _

theorem MakesRoom.now_eq (makes : s.MakesRoom room key r) : r.now = s.now := by
  cases makes <;> rfl

/-- Where no two bindings end together, room is made in one way. -/
theorem MakesRoom.unique {r' : LiveStore α} (apart : s.Apart) (one : s.MakesRoom room key r)
    (two : s.MakesRoom room key r') : r = r' := by
  cases one with
  | free free =>
    cases two with
    | free => rfl
    | evicts absent full =>
      rcases free with present | free
      · exact absurd absent present
      · omega
  | evicts absent full soonest =>
    cases two with
    | free free =>
      rcases free with present | free
      · exact absurd absent present
      · omega
    | evicts _ _ soonest' => rw [soonest.unique apart soonest']

/-- An action has one outcome where no two bindings end together. -/
theorem Step.unique {a : Action α} {out out' : List (CacheAnswer α)} {t t' : LiveStore α}
    (apart : s.Apart) (one : Step room a s out t) (two : Step room a s out' t') :
    out = out' ∧ t = t' := by
  cases one with
  | binds makes early =>
    cases two with
    | binds makes' => exact ⟨rfl, by rw [makes.unique apart makes']⟩
    | overflows _ late => omega
  | overflows makes late =>
    cases two with
    | binds _ early => omega
    | overflows makes' => exact ⟨rfl, makes.unique apart makes'⟩
  | get => cases two; exact ⟨rfl, rfl⟩
  | invalidate => cases two; exact ⟨rfl, rfl⟩
  | clear => cases two; exact ⟨rfl, rfl⟩
  | pass => cases two; exact ⟨rfl, rfl⟩

/-- An action keeps the bindings apart from each other and from those to come. -/
theorem Step.apart {a : Action α} {rest : List (Action α)} {out : List (CacheAnswer α)}
    {t : LiveStore α} (step : Step room a s out t) (apart : s.Apart)
    (avoids : s.Avoids (expiries s.now (a :: rest))) (distinct : (expiries s.now (a :: rest)).Nodup) :
    t.Apart ∧ t.Avoids (expiries t.now rest) ∧ (expiries t.now rest).Nodup := by
  cases step with
  | binds makes early =>
    rw [expiries, if_pos early] at avoids distinct
    obtain ⟨fresh, distinct⟩ := List.nodup_cons.mp distinct
    rw [show (LiveStore.bindUntil _ _ _ _).now = s.now from makes.now_eq]
    exact ⟨(makes.sub.apart apart).bindUntil (makes.sub.avoids avoids),
      (makes.sub.avoids avoids).bindUntil fresh, distinct⟩
  | overflows makes late =>
    rw [expiries, if_neg (Nat.not_lt.mpr late)] at avoids distinct
    rw [makes.now_eq]
    exact ⟨makes.sub.apart apart, makes.sub.avoids avoids, distinct⟩
  | get => exact ⟨apart, avoids, distinct⟩
  | invalidate => exact ⟨(s.unbind_sub _).apart apart, (s.unbind_sub _).avoids avoids, distinct⟩
  | clear => exact ⟨s.clear_sub.apart apart, s.clear_sub.avoids avoids, distinct⟩
  | pass => exact ⟨(s.pass_sub _).apart apart, (s.pass_sub _).avoids avoids, distinct⟩

/-- A run has one outcome if no two of its bindings end together. -/
theorem Run.unique {actions : List (Action α)} {outs outs' : List (CacheAnswer α)}
    {t t' : LiveStore α} (one : Run room actions s outs t) (two : Run room actions s outs' t')
    (apart : s.Apart) (avoids : s.Avoids (expiries s.now actions))
    (distinct : (expiries s.now actions).Nodup) : outs = outs' ∧ t = t' := by
  induction one generalizing outs' t' with
  | nil =>
    cases two
    exact ⟨rfl, rfl⟩
  | cons step _ ih =>
    cases two with
    | cons step' rest' =>
      obtain ⟨rfl, rfl⟩ := step.unique apart step'
      obtain ⟨apart, avoids, distinct⟩ := step.apart apart avoids distinct
      obtain ⟨rfl, rfl⟩ := ih rest' apart avoids distinct
      exact ⟨rfl, rfl⟩

end LiveStore
end ApiAtlas
