import SqlCompiler.Dialect
import SqlCompiler.RequestFile.Failure

/-!
# Arguments of the command line

The first argument names a command.  The command `compile` takes the name of a
request file and a dialect, which may be given as two arguments or as one with
an equals sign; of several dialects the last counts.  A request for help is
answered as soon as it is met.
-/

namespace SqlCompiler

namespace CommandLine

/-- What help can be about. -/
inductive HelpTopic where
  | program
  | compile
  | dialects
  deriving DecidableEq, Repr

/-- A command. -/
inductive Command where
  | help (topic : HelpTopic)
  | compile (file : String) (dialect : Option Dialect)
  | dialects
  deriving DecidableEq, Repr

def usualFile : String := "stmtforge.toml"

def dialectOption : String := "--dialect"

def dialectAssignment : List Char := "--dialect=".toList

def asksForHelp (argument : String) : Bool :=
  argument == "-h" || argument == "--help"

def dropRepeated (mark text : List Char) : List Char :=
  if mark ≠ [] ∧ mark.isPrefixOf text then dropRepeated mark (text.drop mark.length) else text
termination_by text.length
decreasing_by
  rename_i found
  have markLength : 0 < mark.length :=
    List.length_pos_iff.mpr found.1
  have textLength : mark.length ≤ text.length :=
    (List.isPrefixOf_iff_prefix.mp found.2).length_le
  simp only [List.length_drop]
  omega

def dialectOf (value : String) : Except Failure Dialect :=
  (Dialect.parse value).mapError ([.refused ·])

/-- The value behind the equals sign, if an argument is the option for the dialect. -/
def assignedDialect? (argument : String) : Option String :=
  if dialectAssignment.isPrefixOf argument.toList then
    some (.ofList (dropRepeated dialectAssignment argument.toList))
  else none

def isOption (argument : String) : Bool :=
  argument.toList.head? == some '-'

/-- Read the arguments that are left of the command `compile`. -/
def parseCompile (file : Option String) (dialect : Option Dialect) :
    List String → Except Failure Command
  | [] => .ok (.compile (file.getD usualFile) dialect)
  | argument :: rest =>
      if asksForHelp argument then .ok (.help .compile)
      else if argument = dialectOption then
        match rest with
        | [] => .error [.dialectWithoutValue]
        | value :: rest => do
            let dialect ← dialectOf value
            parseCompile file (some dialect) rest
      else
        match assignedDialect? argument with
        | some value => do
            let dialect ← dialectOf value
            parseCompile file (some dialect) rest
        | none =>
            if isOption argument then .error [.unknownOption argument]
            else if file.isSome then .error [.unexpectedArgument argument]
            else parseCompile (some argument) dialect rest

def parseDialects : List String → Except Failure Command
  | [] => .ok .dialects
  | argument :: _ =>
      if asksForHelp argument then .ok (.help .dialects)
      else .error [.unexpectedArgument argument]

def parse : List String → Except Failure Command
  | [] => .ok (.help .program)
  | first :: rest =>
      if asksForHelp first then .ok (.help .program)
      else if first = "compile" then parseCompile none none rest
      else if first = "dialects" then parseDialects rest
      else .error [.unknownCommand first]

end CommandLine

end SqlCompiler
