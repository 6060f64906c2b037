import SqlCompiler.Compiler.Compile

/-!
# Traces of compilations

A compilation leaves one event: the operation, the table, and either the text
or the message of the refusal.  Only an operation that the compiler does not
offer at all leaves none.  A text that is longer than the limit of the
configuration is cut at a byte position, the last one within the limit that
lies between two characters, and three points mark the cut.  Lengths are
counted in bytes of UTF-8.
-/

namespace SqlCompiler

namespace Trace

/-- The first position from a given one downwards that lies between two characters. -/
def boundaryBelow (text : String) : Nat → Nat
  | 0 => 0
  | position + 1 =>
      if String.Pos.Raw.isValid text ⟨position + 1⟩ then position + 1
      else boundaryBelow text position

/-- The initial part of a text up to the last boundary within the limit. -/
def keptPart (text : String) (limit : Nat) : String :=
  if text.utf8ByteSize ≤ limit then text
  else String.Pos.Raw.extract text ⟨0⟩ ⟨boundaryBelow text limit⟩

def cutMark : String := "..."

def truncate (text : String) (limit : Option Nat) : String :=
  match limit with
  | some limit =>
      if limit < text.utf8ByteSize then keptPart text limit ++ cutMark else text
  | none => text

/-- What happened to a compilation. -/
inductive Outcome where
  | compiled (text : String)
  | rejected (message : String)
  deriving DecidableEq, Repr

/-- The trace of one compilation. -/
structure Event where
  operation : String
  table : String
  outcome : Outcome
  deriving DecidableEq, Repr

def eventOf (configuration : Configuration) (operation : Operation) (request : Request)
    (result : Except CompileError String) : Event where
  operation := operation.kind.name
  table := request.table
  outcome :=
    match result with
    | .ok text => .compiled (truncate text configuration.tracedLimit)
    | .error error => .rejected error.message

def events (compiler : Compiler) (configuration : Configuration) (operation : Operation)
    (request : Request) (result : Except CompileError String) : List Event :=
  if compiler.offers operation.kind then [eventOf configuration operation request result]
  else []

end Trace

end SqlCompiler
