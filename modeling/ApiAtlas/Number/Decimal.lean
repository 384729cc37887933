import ApiAtlas.Number.Binary64

/-!
Doubles in decimal notation: the fewest digits that read back (`shortest`), the layouts in which
they are written, and the reading of decimal numerals. Digits and layout are apart: `shortest`
knows no format, and a `Layout` decides only where point, exponent and `.0` go.
-/
namespace ApiAtlas

/-- `digits · 10 ^ exponent`, the digits without a trailing zero. -/
structure Decimal where
  digits : Nat
  exponent : Int
deriving DecidableEq, Repr

namespace Decimal

/-- `units / 10 ^ e` as a ratio, for a count of units of a double. -/
def ratio (units : Nat) (e : Int) : Nat × Nat :=
  if e < 0 then (units * Nat.pow 10 e.natAbs, Binary64.one)
  else (units, Binary64.one * Nat.pow 10 e.natAbs)

/-- Whether the value of `units` is at least `10 ^ e`. -/
def reaches (units : Nat) (e : Int) : Bool :=
  let (num, den) := ratio units e
  den ≤ num

/-- The exponent of the leading decimal digit of a positive double. -/
def magnitude (units : Nat) : Int :=
  let guess := ((Nat.log2 units : Int) - 1074) * 30103 / 100000
  if reaches units (guess + 1) then guess + 1
  else if reaches units guess then guess else guess - 1

/-- Whether `c · 10 ^ e` rounds to the double of `units`. The bounds are half way to the neighbours
and count if the double's last binary digit is even. -/
def readsBack (units : Nat) (e : Int) (c : Nat) : Bool :=
  let step := Binary64.stepAt units
  let up := 2 * step
  let down := if units = Nat.pow 2 52 * step ∧ 1 < step then step else 2 * step
  let (_, den) := ratio units e
  let scale := if e < 0 then Nat.pow 10 e.natAbs else 1
  let low := (4 * units - down) * scale
  let high := (4 * units + up) * scale
  let point := 4 * c * den
  if units / step % 2 = 0 then low ≤ point ∧ point ≤ high else low < point ∧ point < high

/-- The hit on the grid of `10 ^ e`, if one of the two neighbours of the value is one; of two hits
the nearer. -/
def onGrid (units : Nat) (e : Int) : Option Nat :=
  let (num, den) := ratio units e
  let c := num / den
  let nearer := if 2 * (num % den) ≤ den then c else c + 1
  let other := if 2 * (num % den) ≤ den then c + 1 else c
  if nearer ≠ 0 ∧ readsBack units e nearer then some nearer
  else if other ≠ 0 ∧ readsBack units e other then some other
  else none

/-- Drops trailing zeros; the fuel is the number of digits. -/
def trimZeros : Nat → Nat → Int → Decimal
  | 0, c, e => ⟨c, e⟩
  | fuel + 1, c, e => if c ≠ 0 ∧ c % 10 = 0 then trimZeros fuel (c / 10) (e + 1) else ⟨c, e⟩

/-- Tries `k` more grids, from coarse to fine. -/
def search (units : Nat) : Nat → Int → Decimal
  | 0, e => trimZeros 20 ((ratio units e).1 / (ratio units e).2) e
  | k + 1, e =>
    match onGrid units e with
    | some c => trimZeros 20 c e
    | none => search units k (e - 1)

/-- The shortest decimal that reads back as the positive double of `units`, the nearest of those. -/
def shortest (units : Nat) : Decimal := search units 17 (magnitude units)

end Decimal

/-- Where a format puts point, exponent and zeros. -/
structure Layout where
  /-- The exponents of the leading digit that are written without an exponent. -/
  positional : Int → Bool
  /-- Whole numbers keep a `.0`. -/
  pointZero : Bool
  /-- The text between the digits and a positive exponent. -/
  positiveMark : String
  nan : String
  infinity : String

namespace Layout

/-- JSON text: positional from 10⁻⁵ below 10¹⁶. -/
def json : Layout := ⟨fun e => -5 ≤ e ∧ e < 16, true, "e+", "null", "null"⟩

/-- YAML text differs in the mark of a positive exponent, and it names the other values. -/
def yaml : Layout := ⟨fun e => -5 ≤ e ∧ e < 16, true, "e", ".nan", ".inf"⟩

/-- A bound inside a sentence is never written with an exponent. -/
def plain : Layout := ⟨fun _ => true, false, "e", "NaN", "inf"⟩

/-- Digits `cs` with value `0.cs · 10 ^ point` written without an exponent. -/
def positionalText (l : Layout) (cs : List Char) (point : Int) : String :=
  if point ≤ 0 then
    "0." ++ String.ofList (List.replicate point.natAbs '0' ++ cs)
  else
    let n := point.toNat
    if cs.length ≤ n then
      String.ofList (cs ++ List.replicate (n - cs.length) '0') ++ (if l.pointZero then ".0" else "")
    else String.ofList (cs.take n) ++ "." ++ String.ofList (cs.drop n)

/-- One digit, the others behind a point, and the exponent of the first. -/
def scientificText (l : Layout) (cs : List Char) (lead : Int) : String :=
  let mantissa := match cs with
    | [] => "0"
    | [c] => c.toString
    | c :: r => c.toString ++ "." ++ String.ofList r
  mantissa ++ (if lead < 0 then "e-" else l.positiveMark) ++ toString lead.natAbs

def write (l : Layout) : Binary64 → String
  | .nan => l.nan
  | .infinite s => (if s then "-" else "") ++ l.infinity
  | .finite s n =>
    let sign := if s then "-" else ""
    if n = 0 then sign ++ (if l.pointZero then "0.0" else "0")
    else
      let d := Decimal.shortest n
      let cs := Nat.toDigits 10 d.digits
      let point := d.exponent + cs.length
      sign ++ (if l.positional (point - 1) then l.positionalText cs point
        else l.scientificText cs (point - 1))

end Layout

namespace Decimal

def natOf (cs : List Char) : Nat := cs.foldl (fun n c => n * 10 + (c.toNat - 48)) 0

def isDigits (cs : List Char) : Bool := !cs.isEmpty && cs.all Char.isDigit

def sign : List Char → Bool × List Char
  | '-' :: r => (true, r)
  | '+' :: r => (false, r)
  | r => (false, r)

def readInt? (low high : Int) (text : String) : Option Int :=
  let (negative, cs) := sign text.toList
  if isDigits cs then
    let n : Int := natOf cs
    let v := if negative then -n else n
    if low ≤ v ∧ v ≤ high then some v else none
  else none

def readExponent? : List Char → Option Int
  | [] => some 0
  | c :: r =>
    if c = 'e' ∨ c = 'E' then
      let (negative, cs) := sign r
      if isDigits cs then some (if negative then -(natOf cs : Int) else natOf cs) else none
    else none

/-- The ASCII letters of a word in lower case. -/
def lowered (cs : List Char) : String := String.ofList (cs.map Char.toLower)

/-- A numeral with optional sign, point and exponent, or the name of a value that is not finite,
in any case. Rounds once. -/
def readDouble? (text : String) : Option Binary64 :=
  let (negative, cs) := sign text.toList
  let word := lowered cs
  if word = "inf" ∨ word = "infinity" then some (.infinite negative)
  else if word = "nan" then some .nan
  else
    let whole := cs.takeWhile Char.isDigit
    let rest := cs.dropWhile Char.isDigit
    let (fraction, rest) := match rest with
      | '.' :: r => (r.takeWhile Char.isDigit, r.dropWhile Char.isDigit)
      | r => ([], r)
    if whole.isEmpty && fraction.isEmpty then none
    else (readExponent? rest).map fun e =>
      Binary64.ofDecimal negative (natOf (whole ++ fraction)) (e - fraction.length)

end Decimal

example : Layout.json.write (Binary64.ofDecimal false 1 23) = "1e+23" := by decide +kernel
example : Layout.json.write (Binary64.finite false 1) = "5e-324" := by decide +kernel
example : Layout.plain.write (Binary64.ofDecimal true 25 (-1)) = "-2.5" := by decide +kernel
example : Layout.json.write (Binary64.ofDecimal false 1 (-5)) = "0.00001" := by decide +kernel

end ApiAtlas
