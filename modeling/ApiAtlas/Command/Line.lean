/-!
Command lines. A `Grammar` says which commands, options and operands a line may have, and
`Grammar.read` reads a line word by word. Options may stand anywhere behind the command that knows
them; behind `--` every word is an operand.
-/
namespace ApiAtlas.Command

/-- Why a line asks for nothing to be done. -/
inductive Stop where
  | help
  | version
  | misuse
deriving DecidableEq, Repr

/-- What an option does. -/
inductive Effect where
  | stop (s : Stop)
  /-- It is there or not. -/
  | flag
  /-- It has a value. -/
  | value (accepts : String → Bool)
  /-- It has a value, each time that it stands on the line. -/
  | values

structure Switch where
  name : String
  letter : Option Char := none
  effect : Effect

structure Operand where
  name : String
  accepts : String → Bool := fun _ => true

inductive Grammar where
  | command (switches : List Switch) (operands : List Operand)
  | group (switches : List Switch) (commands : List (String × Grammar))

/-- What stands on a line. -/
structure Line where
  /-- The words that name a command. -/
  path : List String := []
  operands : List String := []
  /-- The options in their order; a flag has an empty value. -/
  options : List (String × String) := []
deriving DecidableEq, Repr

namespace Line

def addOption (l : Line) (name value : String) : Line :=
  { l with options := l.options ++ [(name, value)] }

def addOperand (l : Line) (s : String) : Line := { l with operands := l.operands ++ [s] }

def enter (l : Line) (name : String) : Line := { l with path := l.path ++ [name] }

def has (l : Line) (name : String) : Bool := l.options.any (·.1 = name)

/-- All values of an option. -/
def values (l : Line) (name : String) : List String :=
  (l.options.filter (·.1 = name)).map (·.2)

/-- The value of an option; the last one if it stands behind several commands. -/
def value? (l : Line) (name : String) : Option String := (l.values name).getLast?

end Line

inductive Token where
  | word (s : String)
  | terminator
  | long (name : String) (attached : Option String)
  | short (letter : Char) (attached : Option String)
deriving DecidableEq, Repr

namespace Token

def long? (cs : List Char) : Token :=
  let name := cs.takeWhile (· ≠ '=')
  .long (String.ofList name) (match cs.drop name.length with
    | _ :: value => some (String.ofList value)
    | [] => none)

/-- Whatever follows the letter is attached to it, with or without an equals sign. -/
def short? (letter : Char) (rest : List Char) : Token :=
  .short letter (match rest with
    | [] => none
    | '=' :: value => some (String.ofList value)
    | value => some (String.ofList value))

/-- One dash alone is an ordinary word. -/
def ofText (s : String) : Token :=
  match s.toList with
  | ['-', '-'] => .terminator
  | '-' :: '-' :: cs => long? cs
  | '-' :: c :: cs => short? c cs
  | _ => .word s

end Token

namespace Grammar

def switches : Grammar → List Switch
  | .command switches _ => switches
  | .group switches _ => switches

/-- What may follow an option: it may not stand there again, unless it may have many values. -/
def after (g : Grammar) (s : Switch) : Grammar :=
  match s.effect, g with
  | .values, _ => g
  | _, .command switches operands => .command (switches.filter (·.name ≠ s.name)) operands
  | _, .group switches commands => .group (switches.filter (·.name ≠ s.name)) commands

mutual
/-- One line for each command behind some words. -/
def usage (words : String) : Grammar → List String
  | .command switches operands =>
    [words ++ String.join (operands.map fun o => " <" ++ o.name ++ ">")
      ++ String.join (switches.map fun s => " [--" ++ s.name ++ "]")]
  | .group _ commands => usages words commands
def usages (words : String) : List (String × Grammar) → List String
  | [] => []
  | (name, g) :: rest => usage (words ++ " " ++ name) g ++ usages words rest
end

end Grammar

inductive Progress where
  | ready (g : Grammar) (line : Line)
  /-- The value of an option must follow. -/
  | expecting (accepts : String → Bool) (s : Switch) (g : Grammar) (line : Line)
  /-- Only operands follow. -/
  | plain (g : Grammar) (line : Line)
  /-- The names of a command follow about which help is wanted. -/
  | helping (g : Grammar)

namespace Progress

def operand (wrap : Grammar → Line → Progress) (line : Line) (s : String) :
    Grammar → Except Stop Progress
  | .command switches (o :: rest) =>
    if o.accepts s then .ok (wrap (.command switches rest) (line.addOperand s))
    else .error .misuse
  | _ => .error .misuse

def word (line : Line) (s : String) : Grammar → Except Stop Progress
  | .group switches commands =>
    match commands.lookup s with
    | some g => .ok (.ready g (line.enter s))
    | none =>
      if s = "help" then .ok (.helping (.group switches commands)) else .error .misuse
  | g => operand .ready line s g

def option (g : Grammar) (line : Line) (attached : Option String) (s : Switch) :
    Except Stop Progress :=
  let take (accepts : String → Bool) : Except Stop Progress :=
    match attached with
    | some v =>
      if accepts v then .ok (.ready (g.after s) (line.addOption s.name v)) else .error .misuse
    | none => .ok (.expecting accepts s g line)
  match s.effect, attached with
  | .stop why, none => .error why
  | .flag, none => .ok (.ready (g.after s) (line.addOption s.name ""))
  | .value accepts, _ => take accepts
  | .values, _ => take fun _ => true
  | _, some _ => .error .misuse

def optionBy (g : Grammar) (line : Line) (attached : Option String) (known : Switch → Bool) :
    Except Stop Progress :=
  match g.switches.find? known with
  | some s => option g line attached s
  | none => .error .misuse

/-- Letters whose options stop the reading do so whatever is attached. -/
def letter (g : Grammar) (line : Line) (c : Char) (attached : Option String) :
    Except Stop Progress :=
  match g.switches.find? (·.letter = some c) with
  | some ⟨_, _, .stop why⟩ => .error why
  | some s => option g line attached s
  | none => .error .misuse

def step (p : Progress) (s : String) : Except Stop Progress :=
  match p with
  | .helping (.group _ commands) =>
    match commands.lookup s with
    | some g => .ok (.helping g)
    | none => if s = "help" then .ok (.helping (.command [] [])) else .error .misuse
  | .helping _ => .error .misuse
  | .plain g line => operand .plain line s g
  | .expecting accepts o g line =>
    match Token.ofText s with
    | .word v =>
      if accepts v then .ok (.ready (g.after o) (line.addOption o.name v)) else .error .misuse
    | _ => .error .misuse
  | .ready g line =>
    match Token.ofText s with
    | .word w => word line w g
    | .terminator => .ok (.plain g line)
    | .long name attached => optionBy g line attached (·.name = name)
    | .short c attached => letter g line c attached

def finish : Progress → Except Stop Line
  | .ready (.command _ []) line | .plain (.command _ []) line => .ok line
  | .helping _ => .error .help
  | _ => .error .misuse

end Progress

def Grammar.read (g : Grammar) (words : List String) : Except Stop Line := do
  (← words.foldlM Progress.step (.ready g {})).finish

end ApiAtlas.Command
