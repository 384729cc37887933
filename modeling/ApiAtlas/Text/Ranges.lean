/-!
Sets of characters as sorted ranges of their numbers, and maps between characters as runs with a
constant distance. Tables are written as lines of hexadecimal numbers.
-/
namespace ApiAtlas

abbrev Ranges := List (Nat × Nat)

namespace Ranges

def contains (ranges : Ranges) (c : Char) : Bool :=
  ranges.any fun (low, high) => low ≤ c.toNat ∧ c.toNat ≤ high

def hexValue (c : Char) : Nat := if c.isDigit then c.toNat - 48 else c.toNat - 55

/-- Reads `first-last` or a single number, apart by blanks, onto the ranges read before. -/
def scan : List Char → Nat → Option Nat → Ranges
  | [], n, low => [(low.getD n, n)]
  | ' ' :: rest, n, low => (low.getD n, n) :: scan rest 0 none
  | '-' :: rest, n, _ => scan rest 0 (some n)
  | c :: rest, n, low => scan rest (n * 16 + hexValue c) low

def ofText (text : String) : Ranges := scan text.toList 0 none

/-- Inserts a range into sorted ones that neither touch nor overlap, merging what it meets. -/
def insert (low high : Nat) : Ranges → Ranges
  | [] => [(low, high)]
  | (a, b) :: rest =>
    if high + 1 < a then (low, high) :: (a, b) :: rest
    else if b + 1 < low then (a, b) :: insert low high rest
    else insert (min a low) (max b high) rest

/-- Ranges in order, none of which touch or overlap. -/
def normalize (ranges : Ranges) : Ranges :=
  (ranges.mergeSort fun a b => a.1 ≤ b.1).foldr (fun (low, high) out => insert low high out) []

def union (a b : Ranges) : Ranges := normalize (a ++ b)

/-- The gaps between normalized ranges, from a number on. -/
def gaps : Nat → Ranges → Ranges
  | low, [] => if low ≤ 0x10FFFF then [(low, 0x10FFFF)] else []
  | low, (a, b) :: rest => (if low < a then [(low, a - 1)] else []) ++ gaps (b + 1) rest

def complement (a : Ranges) : Ranges := gaps 0 (normalize a)

def inter (a b : Ranges) : Ranges := complement (union (complement a) (complement b))

def diff (a b : Ranges) : Ranges := inter a (complement b)

def ofLines (lines : List String) : Ranges := lines.flatMap ofText

end Ranges

/-- A run of characters that are mapped to others at the same distance: every `step`-th one from
`first` to `last`. -/
structure CaseRun where
  first : Nat
  last : Nat
  step : Nat
  shift : Int
deriving Repr

abbrev CaseRuns := List CaseRun

namespace CaseRuns

/-- The character to which a character is mapped. -/
def image? (runs : CaseRuns) (n : Nat) : Option Nat :=
  runs.findSome? fun r =>
    if r.first ≤ n ∧ n ≤ r.last ∧ (n - r.first) % r.step = 0 then some ((n : Int) + r.shift).toNat
    else none

def preimages (runs : CaseRuns) (n : Nat) : List Nat :=
  runs.filterMap fun r =>
    let m := ((n : Int) - r.shift).toNat
    if r.first ≤ m ∧ m ≤ r.last ∧ (m - r.first) % r.step = 0 then some m else none

end CaseRuns
end ApiAtlas
