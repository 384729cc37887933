import ApiAtlas.Text.Case

/-!
Words of an identifier. Characters that are neither letters nor numbers separate words; so does a
change from lower to upper case, and in a row of capitals the last one belongs to the word behind it.
`capitalized` joins the words, each with a capital first and the rest in lower case.
-/
namespace ApiAtlas.Words

inductive Mode where
  | start | lower | upper
deriving DecidableEq

def Mode.next (mode : Mode) (c : Char) : Mode :=
  if Case.isLower c then .lower else if Case.isUpper c then .upper else mode

/-- Cuts letters and numbers into words; `word` is the current word, last character first. -/
def cut (mode : Mode) (word : List Char) : List Char → List (List Char)
  | [] => []
  | [c] => [(c :: word).reverse]
  | c :: d :: rest =>
    if mode.next c = .lower ∧ Case.isUpper d then (c :: word).reverse :: cut .start [] (d :: rest)
    else if mode = .upper ∧ Case.isUpper c ∧ Case.isLower d then
      word.reverse :: cut .start [c] (d :: rest)
    else cut (mode.next c) (c :: word) (d :: rest)

def runs : List Char → List (List Char)
  | [] => [[]]
  | c :: rest =>
    if Case.isAlphanumeric c then
      match runs rest with
      | run :: others => (c :: run) :: others
      | [] => [[c]]
    else [] :: runs rest

def ofText (s : String) : List (List Char) := (runs s.toList).flatMap (cut .start [])

/-- Lower case; a sigma at the end of a word has a form of its own. -/
def lowered : List Char → List Char
  | [] => []
  | ['Σ'] => ['ς']
  | c :: rest => Case.lower c ++ lowered rest

def capitalize : List Char → List Char
  | [] => []
  | c :: rest => Case.upper c ++ lowered rest

def capitalized (s : String) : String := String.ofList ((ofText s).flatMap capitalize)

end ApiAtlas.Words
