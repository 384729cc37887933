/-!
Double precision numbers as exact values. A finite double is a sign and a whole number of units,
one unit being the least positive double, 2⁻¹⁰⁷⁴; so order is the order of integers, and an
operation is its exact result followed by one rounding, `ofRatio`. There is one not-a-number, and
no record of status flags.
-/
namespace ApiAtlas

/-- A double. `finite s n` stands for ± n · 2⁻¹⁰⁷⁴. -/
inductive Binary64 where
  | finite (negative : Bool) (units : Nat)
  | infinite (negative : Bool)
  | nan
deriving DecidableEq, Repr, Inhabited

namespace Binary64

def one : Nat := Nat.pow 2 1074

/-- The least count of units that is too large to be finite. -/
def beyond : Nat := Nat.pow 2 2098

/-- The quotient rounded to the nearest whole number, a tie to the even neighbour. -/
def roundDiv (num den : Nat) : Nat :=
  let q := num / den
  let r := num % den
  if den < 2 * r ∨ (2 * r = den ∧ q % 2 = 1) then q + 1 else q

/-- The step between neighbouring doubles at `q` units: 53 binary digits are kept. -/
def stepAt (q : Nat) : Nat := Nat.pow 2 (Nat.log2 q - 52)

/-- The double nearest to `num / den` units. -/
def ofRatio (negative : Bool) (num den : Nat) : Binary64 :=
  let step := stepAt (num / den)
  let units := roundDiv num (den * step) * step
  if beyond ≤ units then .infinite negative else .finite negative units

def zero : Binary64 := .finite false 0

def ofInt (n : Int) : Binary64 := ofRatio (n < 0) (n.natAbs * one) 1

/-- The double nearest to `digits · 10 ^ exponent`. Exponents far outside the range are decided
without computing the power. -/
def ofDecimal (negative : Bool) (digits : Nat) (exponent : Int) : Binary64 :=
  if digits = 0 then .finite negative 0
  else if 400 < exponent then .infinite negative
  else if exponent < 0 then
    if Nat.log2 digits + 1080 < 3 * exponent.natAbs then .finite negative 0
    else ofRatio negative (digits * one) (Nat.pow 10 exponent.natAbs)
  else ofRatio negative (digits * Nat.pow 10 exponent.natAbs * one) 1

def isFinite : Binary64 → Bool
  | .finite .. => true
  | _ => false

def isNan : Binary64 → Bool
  | .nan => true
  | _ => false

/-- The signed count of units of a finite double. -/
def signed (negative : Bool) (units : Nat) : Int := if negative then -(units : Int) else units

/-- A double on the number line, the infinities just outside the finite ones. -/
def position? : Binary64 → Option Int
  | .finite s n => some (signed s n)
  | .infinite s => some (signed s beyond)
  | .nan => none

/-- Order and equality hold of no pair with a not-a-number; the two zeros are equal. -/
def lt (x y : Binary64) : Bool :=
  match x.position?, y.position? with
  | some a, some b => a < b
  | _, _ => false

def le (x y : Binary64) : Bool :=
  match x.position?, y.position? with
  | some a, some b => a ≤ b
  | _, _ => false

def eqv (x y : Binary64) : Bool :=
  match x.position?, y.position? with
  | some a, some b => a = b
  | _, _ => false

def neg : Binary64 → Binary64
  | .finite s n => .finite (!s) n
  | .infinite s => .infinite (!s)
  | .nan => .nan

def abs : Binary64 → Binary64
  | .finite _ n => .finite false n
  | .infinite _ => .infinite false
  | .nan => .nan

/-- The double nearest to a signed count of units; an exact zero takes the sign given for it. -/
def ofSigned (zeroSign : Bool) (n : Int) : Binary64 :=
  if n = 0 then .finite zeroSign 0 else ofRatio (n < 0) n.natAbs 1

def add : Binary64 → Binary64 → Binary64
  | .finite s m, .finite t n => ofSigned (s && t) (signed s m + signed t n)
  | .infinite s, .infinite t => if s = t then .infinite s else .nan
  | .infinite s, .finite .. | .finite .., .infinite s => .infinite s
  | .nan, _ | _, .nan => .nan

def sub (x y : Binary64) : Binary64 := add x y.neg

def mul : Binary64 → Binary64 → Binary64
  | .finite s m, .finite t n => ofRatio (s != t) (m * n) one
  | .infinite s, .infinite t => .infinite (s != t)
  | .infinite s, .finite t n | .finite t n, .infinite s => if n = 0 then .nan else .infinite (s != t)
  | .nan, _ | _, .nan => .nan

def div : Binary64 → Binary64 → Binary64
  | .finite s m, .finite t n =>
    if n = 0 then (if m = 0 then .nan else .infinite (s != t)) else ofRatio (s != t) (m * one) n
  | .infinite _, .infinite _ => .nan
  | .infinite s, .finite t _ => .infinite (s != t)
  | .finite s _, .infinite t => .finite (s != t) 0
  | .nan, _ | _, .nan => .nan

/-- The larger of two doubles, a number before a not-a-number. -/
def max (x y : Binary64) : Binary64 :=
  if x.isNan then y else if y.isNan then x else if x.lt y then y else x

/-- The nearest whole number, a half away from zero. -/
def round : Binary64 → Binary64
  | .finite s n => .finite s ((2 * n + one) / (2 * one) * one)
  | x => x

/-- The least whole number that is not smaller. -/
def ceil : Binary64 → Binary64
  | .finite true n => .finite true (n / one * one)
  | .finite false n => ofRatio false ((n + one - 1) / one * one) 1
  | x => x

/-- A finite double without a fraction. -/
def isWhole : Binary64 → Bool
  | .finite _ n => n % one = 0
  | _ => false

def truncate : Binary64 → Int
  | .finite s n => signed s (n / one)
  | _ => 0

/-- The integer part, held inside the range of a signed 64-bit word. -/
def toWord : Binary64 → Int
  | .finite s n => Max.max (-Nat.pow 2 63) (Min.min (Nat.pow 2 63 - 1) (signed s (n / one)))
  | .infinite s => if s then -Nat.pow 2 63 else Nat.pow 2 63 - 1
  | .nan => 0

/-- The gap between one and the next double. -/
def epsilon : Binary64 := .finite false (Nat.pow 2 1022)

@[simp] theorem position?_finite (s : Bool) (n : Nat) :
    (Binary64.finite s n).position? = some (signed s n) := rfl

theorem lt_finite (s t : Bool) (m n : Nat) :
    (Binary64.finite s m).lt (.finite t n) = decide (signed s m < signed t n) := rfl

theorem le_finite (s t : Bool) (m n : Nat) :
    (Binary64.finite s m).le (.finite t n) = decide (signed s m ≤ signed t n) := rfl

example : ofInt 3 = .finite false (3 * 2 ^ 1074) := by decide +kernel
example : ofDecimal false 1 400 = .infinite false := by decide +kernel
example : (ofDecimal false 1 (-1)).add (ofDecimal false 2 (-1)) ≠ ofDecimal false 3 (-1) := by
  decide +kernel

end Binary64
end ApiAtlas
