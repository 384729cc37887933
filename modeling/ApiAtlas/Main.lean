import ApiAtlas.Command.Run

/-!
The program. It reads the files that a command line needs, runs the line, prints what comes of it
and writes what is to be written. It has no network of its own, so that no server can be reached.
-/
namespace ApiAtlas.Command

def readFile (name : String) : IO (Except FileProblem (List Char)) := do
  try
    return .ok (Utf8.bytes (← IO.FS.readBinFile name))
  catch
    | .noFileOrDirectory .. => return .error .missing
    | e => return .error (.other (toString e))

def worldOf (files : List (String × Except FileProblem (List Char))) : World where
  file name := (files.lookup name).getD (.error .missing)
  net := .down

def filesOf (words : List String) : List String :=
  match Invocation.read words with
  | .ok i => i.files
  | .error _ => []

/-- Runs a command line; the result is the exit code. -/
def perform (words : List String) : IO UInt32 := do
  let files ← (filesOf words).mapM fun name => return (name, ← readFile name)
  let r := (worldOf files).runLine words
  if let some (name, content) := r.written then
    IO.FS.writeFile name content
  IO.print r.out
  IO.eprint r.err
  return UInt32.ofNat r.code

end ApiAtlas.Command

def main (words : List String) : IO UInt32 := ApiAtlas.Command.perform words
