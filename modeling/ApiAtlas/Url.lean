import ApiAtlas.Format.Address
import ApiAtlas.Text.Search
import ApiAtlas.Text.Utf8

/-!
Addresses on the web, as far as a request needs them: a scheme, a host and what follows. `Url.parse`
also gives an address its usual form: scheme and host in lower case, no port that the scheme implies,
a path that begins with a slash. Names beyond ASCII are kept as they are, and so are dots in a path and
the groups in brackets; a percent sign in a host is refused instead of decoded, and a user is dropped.
-/
namespace ApiAtlas

/-- Why a text is no address that a request can be sent to. -/
inductive UrlProblem where
  | relative
  | emptyHost
  | badName
  | badOctets
  | badGroups
  | badPort
  | badScheme (url : String)
deriving DecidableEq, Repr

namespace UrlProblem

def message : UrlProblem → String
  | .relative => "relative URL without a base"
  | .emptyHost => "empty host"
  | .badName => "invalid international domain name"
  | .badOctets => "invalid IPv4 address"
  | .badGroups => "invalid IPv6 address"
  | .badPort => "invalid port number"
  | .badScheme _ => "URL scheme is not allowed"

end UrlProblem

structure Url where
  scheme : String
  /-- Host and port. -/
  authority : String
  /-- Path, query and fragment. -/
  target : String
deriving DecidableEq, Repr

namespace Url

def text (u : Url) : String := u.scheme ++ "://" ++ u.authority ++ u.target

def lowered (cs : List Char) : String := String.ofList (cs.map Char.toLower)

/-- An address without blanks around it, and without tabs and line breaks. -/
def cleaned (s : String) : List Char :=
  let ended := (s.toList.reverse.dropWhile (·.toNat ≤ 0x20)).reverse
  (ended.dropWhile (·.toNat ≤ 0x20)).filter fun c => !(c = '\t' || c = '\n' || c = '\r')

/-- The scheme of an address and what follows the colon. -/
def scheme? (cs : List Char) : Option (String × List Char) :=
  let name := cs.takeWhile fun c => c.isAlphanum || c = '+' || c = '-' || c = '.'
  match name, cs.dropWhile fun c => c.isAlphanum || c = '+' || c = '-' || c = '.' with
  | first :: _, ':' :: rest => if first.isAlpha then some (lowered name, rest) else none
  | _, _ => none

def isSlash (c : Char) : Bool := c = '/' ∨ c = '\\'

def endsAuthority (c : Char) : Bool := isSlash c || c = '?' || c = '#'

/-- What stands behind the last at sign. -/
def withoutUser (cs : List Char) : List Char :=
  if cs.contains '@' then (cs.reverse.takeWhile (· ≠ '@')).reverse else cs

/-- Host and port; a bracketed host may hold colons. -/
def splitPort (cs : List Char) : List Char × Option (List Char) :=
  let port := (cs.reverse.takeWhile fun c => c ≠ ':' ∧ c ≠ ']').reverse
  let rest := cs.take (cs.length - port.length)
  if rest.getLast? = some ':' then (rest.dropLast, some port) else (cs, none)

def digit (c : Char) : Nat := if c.isDigit then c.toNat - 48 else c.toLower.toNat - 87

def number? (base : Nat) (cs : List Char) : Option Nat :=
  if cs.all fun c => Address.isHex c && digit c < base then
    some (cs.foldl (fun n c => n * base + digit c) 0)
  else none

/-- The number that a scheme implies as port. -/
def defaultPort (scheme : String) : Nat := if scheme = "https" then 443 else 80

def portNumber? (cs : List Char) : Option Nat := (number? 10 cs).filter (· < Nat.pow 2 16)

/-- A number in a host: octal behind a zero, hexadecimal behind a zero and an `x`. -/
def part? : List Char → Option Nat
  | [] => none
  | '0' :: c :: rest => if c = 'x' ∨ c = 'X' then number? 16 rest else number? 8 (c :: rest)
  | cs => number? 10 cs

/-- Four octets from up to four numbers, of which the last one fills the octets that are left. -/
def octets? (parts : List (List Char)) : Option (List Nat) := do
  let ns ← parts.mapM part?
  let last ← ns.getLast?
  let left := 5 - ns.length
  if 0 < left ∧ ns.dropLast.all (· < 256) ∧ last < Nat.pow 256 left then
    return ns.dropLast ++ (List.range left).reverse.map fun k => last / Nat.pow 256 k % 256
  else none

/-- The parts of a host between dots; one dot may end it. -/
def hostParts (cs : List Char) : List (List Char) :=
  let parts := splitOn '.' cs
  if 1 < parts.length ∧ parts.getLast? = some [] then parts.dropLast else parts

/-- A host ends in a number if its last part is one, be it too large or not even octal. -/
def isNumeric (parts : List (List Char)) : Bool :=
  match parts.getLast? with
  | some last => (!last.isEmpty && last.all Char.isDigit) || (part? last).isSome
  | none => false

/-- A character that no host holds. -/
def isForbidden (c : Char) : Bool :=
  c.toNat ≤ 0x20 || c.toNat = 0x7F || "#%/:<>?@[\\]^|".toList.contains c

/-- The usual form of a host. -/
def host (cs : List Char) : Except UrlProblem String :=
  if cs.isEmpty then .error .emptyHost
  else if cs.head? = some '[' then
    if cs.getLast? = some ']' ∧ Address.acceptsEight (cs.drop 1).dropLast then .ok (lowered cs)
    else .error .badGroups
  else if cs.any isForbidden then .error .badName
  else if isNumeric (hostParts cs) then
    match octets? (hostParts cs) with
    | some octets => .ok (".".intercalate (octets.map toString))
    | none => .error .badOctets
  else .ok (lowered cs)

def percent (c : Char) : String :=
  "%" ++ String.ofList [(Nat.digitChar (c.toNat / 16)).toUpper, (Nat.digitChar (c.toNat % 16)).toUpper]

/-- Characters that stand for themselves behind the host. -/
def isPlain (c : Char) : Bool :=
  0x20 < c.toNat ∧ c.toNat < 0x7F ∧ c ≠ '"' ∧ c ≠ '<' ∧ c ≠ '>' ∧ c ≠ '`' ∧ c ≠ '{' ∧ c ≠ '}'

def encode (cs : List Char) : String :=
  String.join <| cs.map fun c =>
    if isPlain c then c.toString
    else String.join ((Utf8.encode c.toString).map percent)

def parse (s : String) : Except UrlProblem Url :=
  match scheme? (cleaned s) with
  | none => .error .relative
  | some (scheme, rest) =>
    if scheme = "http" ∨ scheme = "https" then do
      let rest := rest.dropWhile isSlash
      let (name, port) := splitPort (withoutUser (rest.takeWhile (!endsAuthority ·)))
      let host ← host name
      match portNumber? (port.getD []) with
      | none => .error .badPort
      | some n =>
        let implied := (port.getD []).isEmpty || n = defaultPort scheme
        let target := encode (rest.dropWhile (!endsAuthority ·))
        return {
          scheme
          authority := host ++ (if implied then "" else ":" ++ toString n)
          target := if target.toList.head? = some '/' then target else "/" ++ target }
    else .error (.badScheme s)

/-- The text of an address without what the encoding of a `Url` adds, for messages. -/
def normal (s : String) : String :=
  match parse s with
  | .ok u => u.text
  | .error _ => s

example : normal "HTTP://Api.Test:80" = "http://api.test/" := by decide
example : normal "https://a.b:8443/x?y#z" = "https://a.b:8443/x?y#z" := by decide
example : normal "http://0x7f.1/" = "http://127.0.0.1/" := by decide
example : (parse "http://1.2.3.256/").isOk = false := by decide

end Url
end ApiAtlas
