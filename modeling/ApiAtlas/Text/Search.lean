/-!
Pieces of texts: splitting at a separator, finding a part, and replacing every occurrence of a part,
from left to right and without overlaps.
-/
namespace ApiAtlas

/-- Pieces of a list between separators; one more than there are separators. -/
def splitOn (separator : Char) : List Char → List (List Char)
  | [] => [[]]
  | c :: rest =>
    if c = separator then [] :: splitOn separator rest
    else match splitOn separator rest with
      | [] => [[c]]
      | piece :: pieces => (c :: piece) :: pieces

def fields (separator : Char) (s : String) : List String :=
  (splitOn separator s.toList).map String.ofList

/-- Whether one list occurs inside another. -/
def occursIn [BEq α] (part : List α) : List α → Bool
  | [] => part.isEmpty
  | c :: rest => part.isPrefixOf (c :: rest) || occursIn part rest

def contains (text part : String) : Bool := occursIn part.toList text.toList

/-- Replaces occurrences of a part; `skip` more characters belong to the last one. -/
def replaceFrom (part new : List Char) : Nat → List Char → List Char
  | _, [] => []
  | skip + 1, _ :: rest => replaceFrom part new skip rest
  | 0, c :: rest =>
    if part.isPrefixOf (c :: rest) then new ++ replaceFrom part new (part.length - 1) rest
    else c :: replaceFrom part new 0 rest

/-- A text with every occurrence of a nonempty part replaced. -/
def replaceAll (text part new : String) : String :=
  String.ofList (replaceFrom part.toList new.toList 0 text.toList)

example : fields '.' "3.1." = ["3", "1", ""] := by decide
example : replaceAll "aaab" "aa" "x" = "xab" := by decide

end ApiAtlas
