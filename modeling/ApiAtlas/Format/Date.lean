import ApiAtlas.Text.Blank

/-!
Dates and points in time as texts. A date is year, month and day between hyphens, each with or
without leading zeros and leading blanks; a point in time has fixed places and an offset. Both must
name a day of the Gregorian calendar, extended to years before its start.
-/
namespace ApiAtlas.Date

/-- Reads at least `least` and at most `most` decimal digits. -/
def digits? (least most : Nat) (cs : List Char) : Option (Nat × List Char) :=
  let ds := (cs.take most).takeWhile Char.isDigit
  if ds.length < least then none
  else some (ds.foldl (fun n c => n * 10 + (c.toNat - 48)) 0, cs.drop ds.length)

def char? (c : Char) : List Char → Option (List Char)
  | d :: rest => if d = c then some rest else none
  | [] => none

def isLeap (year : Int) : Bool := year % 4 = 0 ∧ (year % 100 ≠ 0 ∨ year % 400 = 0)

def monthLength (year : Int) (month : Nat) : Nat :=
  if month = 2 then (if isLeap year then 29 else 28)
  else if month = 4 ∨ month = 6 ∨ month = 9 ∨ month = 11 then 30 else 31

def isDay (year : Int) (month day : Nat) : Bool :=
  -262143 ≤ year ∧ year ≤ 262142 ∧ 1 ≤ month ∧ month ≤ 12 ∧ 1 ≤ day ∧ day ≤ monthLength year month

/-- A year: four digits at most, or any number of them behind a sign. -/
def year? (cs : List Char) : Option (Int × List Char) :=
  match cs.dropWhile isBlank with
  | '-' :: rest => (digits? 1 rest.length rest).map fun (n, rest) => (-(n : Int), rest)
  | '+' :: rest => (digits? 1 rest.length rest).map fun (n, rest) => ((n : Int), rest)
  | cs => (digits? 1 4 cs).map fun (n, rest) => ((n : Int), rest)

def accepts (cs : List Char) : Bool :=
  (do
    let (year, cs) ← year? cs
    let cs ← char? '-' cs
    let (month, cs) ← digits? 1 2 (cs.dropWhile isBlank)
    let cs ← char? '-' cs
    let (day, cs) ← digits? 1 2 (cs.dropWhile isBlank)
    return cs.isEmpty && isDay year month day).getD false

/-- The part of a point in time behind the seconds' point. -/
def fraction? : List Char → Option (List Char)
  | '.' :: rest => (digits? 1 9 rest).map fun (_, rest) => rest.dropWhile Char.isDigit
  | cs => some cs

/-- An offset from universal time: `Z`, or a sign, hours and minutes. -/
def offset? : List Char → Option (List Char)
  | 'Z' :: rest | 'z' :: rest => some rest
  | c :: rest =>
    if c = '+' ∨ c = '-' ∨ c = '\u2212' then do
      let (hours, rest) ← digits? 2 2 rest
      let rest ← char? ':' rest
      let (minutes, rest) ← digits? 2 2 rest
      if hours < 24 ∧ minutes < 60 then some rest else none
    else none
  | [] => none

/-- Whether a text is a point in time. -/
def acceptsTime (cs : List Char) : Bool :=
  (do
    let (year, cs) ← digits? 4 4 cs
    let cs ← char? '-' cs
    let (month, cs) ← digits? 2 2 cs
    let cs ← char? '-' cs
    let (day, cs) ← digits? 2 2 cs
    let cs ← match cs with
      | 'T' :: rest | 't' :: rest | ' ' :: rest => some rest
      | _ => none
    let (hour, cs) ← digits? 2 2 cs
    let cs ← char? ':' cs
    let (minute, cs) ← digits? 2 2 cs
    let cs ← char? ':' cs
    let (second, cs) ← digits? 2 2 cs
    let cs ← fraction? cs
    let cs ← offset? cs
    return cs.isEmpty && isDay year month day && decide (hour < 24 ∧ minute < 60 ∧ second ≤ 60)).getD
      false

end ApiAtlas.Date
