/-!
Bytes as text. A byte is written as the character of the same number (`bytes`), so that readers of
raw input can match on characters; `decode?` turns such bytes into text and fails where they are no
UTF-8: stray or missing continuation bytes, overlong forms, surrogates, numbers above 10FFFF.
-/
namespace ApiAtlas.Utf8

/-- Each byte as the character of its number. -/
def bytes (b : ByteArray) : List Char := b.toList.map fun u => Char.ofNat u.toNat

def encode (s : String) : List Char := bytes s.toUTF8

def continuation? (c : Char) : Option Nat :=
  if 0x80 ≤ c.toNat ∧ c.toNat < 0xC0 then some (c.toNat - 0x80) else none

/-- A character with the given number if it is one and was not written too long. -/
def char? (least n : Nat) : Option Char :=
  if least ≤ n ∧ n.isValidChar then some (Char.ofNat n) else none

def decode? : List Char → Option (List Char)
  | [] => some []
  | a :: rest =>
    if a.toNat < 0x80 then (decode? rest).map (a :: ·)
    else if a.toNat < 0xC2 then none
    else if a.toNat < 0xE0 then
      match rest with
      | b :: rest => do
        let y ← continuation? b
        let c ← char? 0x80 ((a.toNat - 0xC0) * 64 + y)
        return c :: (← decode? rest)
      | _ => none
    else if a.toNat < 0xF0 then
      match rest with
      | b :: d :: rest => do
        let y ← continuation? b
        let z ← continuation? d
        let c ← char? 0x800 ((a.toNat - 0xE0) * 4096 + y * 64 + z)
        return c :: (← decode? rest)
      | _ => none
    else if a.toNat < 0xF5 then
      match rest with
      | b :: d :: e :: rest => do
        let x ← continuation? b
        let y ← continuation? d
        let z ← continuation? e
        let c ← char? 0x10000 ((a.toNat - 0xF0) * 262144 + x * 4096 + y * 64 + z)
        return c :: (← decode? rest)
      | _ => none
    else none

def text? (cs : List Char) : Option String := (decode? cs).map String.ofList

example : text? (encode "aé日😀") = some "aé日😀" := by decide +kernel

end ApiAtlas.Utf8
