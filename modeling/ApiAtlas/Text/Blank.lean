import ApiAtlas.Text.Search

/-!
White space in the sense of Unicode's property White_Space: 25 characters. `trim` takes it off both
ends of a text. Readers of formats have narrower classes of their own.
-/
namespace ApiAtlas

def isBlank (c : Char) : Bool :=
  let n := c.toNat
  (9 ≤ n ∧ n ≤ 13) ∨ n = 0x20 ∨ n = 0x85 ∨ n = 0xA0 ∨ n = 0x1680 ∨ (0x2000 ≤ n ∧ n ≤ 0x200A) ∨
    n = 0x2028 ∨ n = 0x2029 ∨ n = 0x202F ∨ n = 0x205F ∨ n = 0x3000

/-- Blanks removed from both ends. -/
def trimBlanks (cs : List Char) : List Char :=
  ((cs.dropWhile isBlank).reverse.dropWhile isBlank).reverse

def trim (s : String) : String := String.ofList (trimBlanks s.toList)

example : trim "\u00a0 a b\u3000" = "a b" := by decide

end ApiAtlas
