import SqlCompiler.CommandLine.Arguments
import SqlCompiler.CommandLine.Table
import SqlCompiler.RequestFile.Compile

/-!
# Running the command

A run is a function of the arguments and of the file that they name.  It gives
the lines of the output and, if it fails, the chain of causes; a run that fails
in an entry has already written the line with the dialect.
-/

namespace SqlCompiler

namespace CommandLine

/-- What a run leaves: lines of output, and a failure if there was one. -/
structure Outcome where
  lines : List String := []
  failure : Option Failure := none
  deriving Repr

namespace Outcome

def output (outcome : Outcome) : String :=
  String.join (outcome.lines.map (· ++ "\n"))

/-- The outcome of a run that fails before it writes anything. -/
def failed (failure : Failure) : Outcome where
  failure := some failure

end Outcome

def programHelp : List String :=
  ["stmtforge - compile statement request files to dialect SQL",
    "",
    "USAGE:",
    "  stmtforge <COMMAND> [OPTIONS]",
    "",
    "COMMANDS:",
    "  compile       Compile every statement of a request file",
    "  dialects      List the supported dialects and their settings",
    "",
    "Run \x60stmtforge <command> --help\x60 for more."]

def compileHelp : List String :=
  ["USAGE:",
    "  stmtforge compile [FILE] [OPTIONS]",
    "",
    "ARGS:",
    "  [FILE]                Request file (default: stmtforge.toml)",
    "",
    "OPTIONS:",
    "  --dialect <NAME>      Override the file's dialect",
    "                        (sqlserver, postgresql, mysql, sqlite)",
    "  -h, --help            Print help"]

def dialectsHelp : List String :=
  ["USAGE:",
    "  stmtforge dialects",
    "",
    "Prints each dialect's quoting, parameter prefix and capabilities."]

def help : HelpTopic → List String
  | .program => programHelp
  | .compile => compileHelp
  | .dialects => dialectsHelp

/-- Read a request file from its name and its text, if that could be read. -/
def load (name : String) (text : Except FileProblem String) : Except Failure RequestFile :=
  match text with
  | .error problem => .error [.fileNotRead name, .fileUnreadable problem]
  | .ok text =>
      match RequestFile.read? text with
      | none => .error [.fileNotParsed name, .malformedDocument]
      | some file =>
          if file.entries.isEmpty then .error [.fileNotParsed name, .noEntries] else .ok file

def parameterLine (parameter : BoundParameter) : String :=
  "--   " ++ parameter.name ++ " = " ++ parameter.value.jsonText

def entryLines (place : Nat) (entry : CompiledEntry) : List String :=
  ["", "-- [" ++ toString (place + 1) ++ "] " ++ entry.label, entry.text] ++
    entry.parameters.map parameterLine

/-- Compile a request file for a dialect, else for its own, else for SQL Server. -/
def compileFile (file : RequestFile) (dialect : Option Dialect) : Outcome :=
  let dialect := (dialect.or file.dialect).getD .sqlServer
  let heading := "-- dialect: " ++ dialect.name
  match file.compile dialect (file.configuration .initial) with
  | .ok entries => { lines := heading :: (entries.mapIdx entryLines).flatten }
  | .error failure => { lines := [heading], failure := some failure }

/-- Run a command, where `read` gives the text of the file at a path. -/
def execute (read : String → Except FileProblem String) : Command → Outcome
  | .help topic => { lines := help topic }
  | .dialects => { lines := dialectTable }
  | .compile name dialect =>
      match load name (read name) with
      | .ok file => compileFile file dialect
      | .error failure => .failed failure

def run (read : String → Except FileProblem String) (arguments : List String) : Outcome :=
  match parse arguments with
  | .ok command => execute read command
  | .error failure => .failed failure

end CommandLine

end SqlCompiler
