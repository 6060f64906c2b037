import SqlCompiler.Compiler.Compile
import SqlCompiler.RequestFile.Basic
import SqlCompiler.RequestFile.Failure

/-!
# Compiling request files

The entries are compiled in order, with the setting of the dialect and the
overrides of the file, and all on one growing text.  A compiled entry carries
the parameters of its condition if its operation has one that comes from the
filter.  The first entry that fails makes the whole file fail.
-/

namespace SqlCompiler

/-- A compiled entry. -/
structure CompiledEntry where
  label : String
  text : String
  parameters : List BoundParameter
  deriving Repr

namespace RequestEntry

def readBag {α : Type} (cause : Cause) (read : Json → Except CompileError α)
    (bag : Option Json) : Except Failure (Option α) :=
  match bag with
  | none => .ok none
  | some bag => Failure.inside cause (((read bag).map some).mapError ([.refused ·]))

def request (entry : RequestEntry) : Except Failure Request := do
  let filter ← readBag .invalidFilter Filter.ofBag entry.filter
  let order ← readBag .invalidOrder SortKey.ofBag entry.order
  .ok
    { table := entry.table
      fields := entry.fields
      filter
      order := order.getD []
      qualifiers := entry.qualifiers
      columns := entry.columns
      batchSize := entry.batchSize.getD 1
      hints := entry.hints }

def operationOf (entry : RequestEntry) : Except Failure Operation :=
  match Operation.make? entry.operation entry.arguments with
  | some operation => .ok operation
  | none => .error [.fieldMissing entry.operation.name]

/-- The filter as it stands in the condition of an operation, if it does. -/
def conditionFilter (operation : OperationKind) (filter : Option Filter) : Option Filter :=
  match operation, filter with
  | .update .oneRow, some filter => some filter.forUpdate
  | operation, filter => if operation.heedsFilter then filter else none

/-- What an entry asks for: a request and an operation on it. -/
def prepare (entry : RequestEntry) : Except Failure (Request × Operation) := do
  let request ← entry.request
  let operation ← entry.operationOf
  .ok (request, operation)

/-- The parameters of the condition that comes from the filter of a request. -/
def listedParameters (entry : RequestEntry) (compiler : Compiler) (request : Request) :
    List BoundParameter :=
  let condition := conditionFilter entry.operation request.filter
  (condition.map (fun filter => filter.parameters compiler.setting 0)).getD []

/-- The result of an entry on the text of its caller, and the text that it leaves behind. -/
def compileOver (entry : RequestEntry) (compiler : Compiler) (configuration : Configuration)
    (before : StatementText) : Except Failure CompiledEntry × StatementText :=
  match entry.prepare with
  | .error failure => (.error failure, before)
  | .ok (request, operation) =>
      match compiler.textOver configuration operation request before with
      | (.error error, after) => (.error [.refused error], after)
      | (.ok text, after) =>
          let parameters := entry.listedParameters compiler request
          (.ok { label := entry.label, text, parameters }, after)

end RequestEntry

namespace RequestFile

def compiler (file : RequestFile) (dialect : Dialect) : Compiler where
  dialect := some dialect
  setting := dialect.setting.override file.overrides

def configuration (file : RequestFile) (before : Configuration) : Configuration :=
  match file.options with
  | some options => .setup options
  | none => before

/-- Compile the entries that stand behind so many others, on the text that these left. -/
def compileFrom (compiler : Compiler) (configuration : Configuration) (position : Nat) :
    List RequestEntry → StatementText → Except Failure (List CompiledEntry) × StatementText
  | [], before => (.ok [], before)
  | entry :: rest, before =>
      match entry.compileOver compiler configuration before with
      | (.error failure, after) =>
          (.error (.entry (position + 1) entry.label :: failure), after)
      | (.ok compiled, after) =>
          let others := compileFrom compiler configuration (position + 1) rest after
          (others.1.map (compiled :: ·), others.2)

def compile (file : RequestFile) (dialect : Dialect) (configuration : Configuration) :
    Except Failure (List CompiledEntry) :=
  (compileFrom (file.compiler dialect) configuration 0 file.entries {}).1

end RequestFile

end SqlCompiler
