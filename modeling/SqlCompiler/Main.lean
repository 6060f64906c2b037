import SqlCompiler.CommandLine.Run

/-!
# The program

The outer layer reads the file that the arguments name, runs the command line
on its text, and writes the output and the report of a failure.
-/

namespace SqlCompiler

namespace CommandLine

/-- The code of the system for a folder that is read as a file. -/
def folderCode : UInt32 := 21

def problemOf : IO.Error → FileProblem
  | .noFileOrDirectory _ _ _ => .missing
  | .inappropriateType _ code _ => if code = folderCode then .isFolder else .notFolder
  | .invalidArgument _ _ _ => .nameTooLong
  | error => .other (toString error)

def readText (name : String) : IO (Except FileProblem String) := do
  try
    let text ← IO.FS.readFile name
    return .ok text
  catch error =>
    return .error (problemOf error)

/-- The text of the file that the arguments name, if they name one. -/
def readNamedFile (arguments : List String) : IO (Except FileProblem String) :=
  match parse arguments with
  | .ok (.compile name _) => readText name
  | _ => return .error .missing

end CommandLine

end SqlCompiler

def main (arguments : List String) : IO UInt32 := do
  let text ← SqlCompiler.CommandLine.readNamedFile arguments
  let outcome := SqlCompiler.CommandLine.run (fun _ => text) arguments
  IO.print outcome.output
  match outcome.failure with
  | some failure =>
      IO.eprintln failure.report
      return 1
  | none => return 0
