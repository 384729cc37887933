import ApiAtlas.Format.Address

/-!
The formats of texts that are checked: mail addresses, identifiers of 32 hexadecimal digits, addresses
with a scheme, dates, points in time and network addresses. Any other format holds of every text.
-/
namespace ApiAtlas.Format

/-- One `@` with a text before it and a point inside the text behind it; no blanks. -/
def isMail (cs : List Char) : Bool :=
  !cs.any isBlank &&
    match splitOn '@' cs with
    | [user, host] => !user.isEmpty && ((host.drop 1).dropLast).contains '.'
    | _ => false

/-- Groups of 8, 4, 4, 4 and 12 hexadecimal digits between hyphens. -/
def isUuid (cs : List Char) : Bool :=
  let groups := splitOn '-' cs
  groups.map List.length == [8, 4, 4, 4, 12] && groups.all fun g => g.all Address.isHex

def isLetter (c : Char) : Bool := c.isAlpha

/-- A scheme, a colon and at least one character; no blanks. -/
def isUri (cs : List Char) : Bool :=
  let isScheme (c : Char) : Bool := c.isAlphanum || c == '+' || c == '.' || c == '-'
  match cs with
  | c :: rest =>
    let target := rest.dropWhile isScheme
    isLetter c && target.head? == some ':' && decide (1 < target.length) &&
      !target.any isBlank
  | [] => false

def accepts (format text : String) : Bool :=
  let cs := text.toList
  if format = "email" then isMail cs
  else if format = "uuid" then isUuid cs
  else if format = "uri" ∨ format = "url" then isUri cs
  else if format = "date" then Date.accepts cs
  else if format = "date-time" then Date.acceptsTime cs
  else if format = "ipv4" then Address.acceptsFour cs
  else if format = "ipv6" then Address.acceptsEight cs
  else true

example : accepts "email" "a@b.io" = true := by decide
example : accepts "date-time" "2023-01-01T12:00:60+02:00" = true := by decide

end ApiAtlas.Format
