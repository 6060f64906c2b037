import SqlCompiler.Error

/-!
# Why a run of the command fails

A failure is a chain of causes, the outermost first: each cause says in which
part of the work the next one arose.
-/

namespace SqlCompiler

/-- Why a file cannot be read. -/
inductive FileProblem where
  | missing
  | isFolder
  | notFolder
  | nameTooLong
  | nameWithZero
  | other (description : String)
  deriving DecidableEq, Repr

def FileProblem.message : FileProblem → String
  | .missing => "No such file or directory (os error 2)"
  | .isFolder => "Is a directory (os error 21)"
  | .notFolder => "Not a directory (os error 20)"
  | .nameTooLong => "File name too long (os error 36)"
  | .nameWithZero => "file name contained an unexpected NUL byte"
  | .other description => description

/-- A link of a failure. -/
inductive Cause where
  | refused (error : CompileError)
  | unknownCommand (name : String)
  | unknownOption (name : String)
  | unexpectedArgument (argument : String)
  | dialectWithoutValue
  | fileNotRead (name : String)
  | fileUnreadable (problem : FileProblem)
  | fileNotParsed (name : String)
  | malformedDocument
  | noEntries
  | entry (position : Nat) (label : String)
  | invalidFilter
  | invalidOrder
  | fieldMissing (operation : String)
  deriving DecidableEq, Repr

namespace Cause

/-- The message of a cause; a document that cannot be read is not described further. -/
def message : Cause → String
  | .refused error => error.message
  | .unknownCommand name => "unknown command: " ++ name
  | .unknownOption name => "unknown option: " ++ name
  | .unexpectedArgument argument => "unexpected argument: " ++ argument
  | .dialectWithoutValue => "--dialect requires a value"
  | .fileNotRead name => "failed to read request file " ++ name
  | .fileUnreadable problem => problem.message
  | .fileNotParsed name => "failed to parse request file " ++ name
  | .malformedDocument => "<toml>"
  | .noEntries => "no [[statement]] entries"
  | .entry position label => "statement #" ++ toString position ++ " (" ++ label ++ ")"
  | .invalidFilter => "invalid \x60filter\x60"
  | .invalidOrder => "invalid \x60order_by\x60"
  | .fieldMissing operation => "\x60" ++ operation ++ "\x60 needs a \x60field\x60"

end Cause

abbrev Failure := List Cause

namespace Failure

/-- The lines below the outermost cause, numbered if there are several. -/
def causeLines (causes : List Cause) : List String :=
  match causes with
  | [] => []
  | [cause] => ["", "Caused by:", "    " ++ cause.message]
  | causes =>
      ["", "Caused by:"] ++
        causes.mapIdx (fun place cause => "    " ++ toString place ++ ": " ++ cause.message)

def report (failure : Failure) : String :=
  match failure with
  | [] => "Error"
  | outermost :: causes =>
      "\n".intercalate (("Error: " ++ outermost.message) :: causeLines causes)

def inside {α : Type} (cause : Cause) (result : Except Failure α) : Except Failure α :=
  result.mapError (cause :: ·)

end Failure

end SqlCompiler
