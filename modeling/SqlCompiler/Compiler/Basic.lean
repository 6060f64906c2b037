import SqlCompiler.Configuration
import SqlCompiler.Dialect
import SqlCompiler.Operation
import SqlCompiler.Statement.Words

/-!
# Compilers

A compiler writes statements for one dialect with a setting, and it may have a
policy for reported keys of its own instead of the shared one.  The standard
compiler belongs to no dialect: it knows the operations that are the same
everywhere and refuses the others.

The dialects differ in how rows are counted, where a row limit stands, how a
column is made ready for an average, and how a key is reported after a row was
written.
-/

namespace SqlCompiler

/-- A compiler for a dialect, or the standard one. -/
structure Compiler where
  dialect : Option Dialect
  setting : Setting
  keyPolicy : Option KeyPolicy := none
  deriving DecidableEq, Repr

/-- The compiler for a dialect with its default setting. -/
def Dialect.compiler (dialect : Dialect) : Compiler where
  dialect := some dialect
  setting := dialect.setting

/-- What reports the key behind an inserted row: a clause of the insert or more statements. -/
structure KeyTail where
  returned : Option KeyReport := none
  behind : List Statement := []
  deriving Repr

namespace KeyTail

/-- The words behind the values of an insert, its terminator included. -/
def words (tail : KeyTail) (setting : Setting) : List String :=
  KeyReport.clause "RETURNING" tail.returned setting ++ [terminator] ++
    Statement.allWords setting tail.behind

end KeyTail

namespace Compiler

def standard (setting : Setting) : Compiler where
  dialect := none
  setting := setting

/-- The compiler offers an operation; pages and merges need a dialect. -/
def offers (compiler : Compiler) (kind : OperationKind) : Bool :=
  match kind with
  | .batchQuery | .merge _ => compiler.dialect.isSome
  | _ => true

def countExpression (compiler : Compiler) : String :=
  match compiler.dialect with
  | some .sqlServer => "COUNT_BIG (*)"
  | _ => "COUNT (*)"

/-- A row limit stands in front of the columns and not at the end. -/
def limitsInFront (compiler : Compiler) : Bool :=
  match compiler.dialect with
  | none | some .sqlServer => true
  | _ => false

/-- The quoted column as it is averaged, converted if the setting names a type. -/
def averageArgument (compiler : Compiler) (column : String) : String :=
  match compiler.setting.averageType, compiler.dialect with
  | none, _ => column
  | some type, some .sqlServer => "CONVERT(" ++ type ++ ", " ++ column ++ ")"
  | some type, _ => "CAST(" ++ column ++ " AS " ++ type ++ ")"

/-- The policy for reported keys, the shared one unless the compiler has its own. -/
def policy (compiler : Compiler) (configuration : Configuration) :
    Except CompileError KeyPolicy :=
  match compiler.keyPolicy with
  | some policy => .ok policy
  | none => configuration.keyPolicy

def reportedKey (compiler : Compiler) (configuration : Configuration) (request : Request) :
    Except CompileError (Option Column) := do
  let policy ← compiler.policy configuration
  .ok (policy.resolve request.primary? request.identity?)

/-- The SQL Server type to which a generated key is converted. -/
def generatedKeyType (key : Column) : String :=
  match key.type with
  | some .int16 => "SMALLINT"
  | some .int32 => "INT"
  | some .decimal => "DECIMAL(38, 0)"
  | _ => "BIGINT"

def scopeKey (key : Column) (row : Nat) : KeyExpression :=
  if key.isIdentity then .scopeIdentity (generatedKeyType key) else .parameter key.name row

/--
The key of a row that was written with values for some fields, where a function
gives the last generated key.
-/
def lastKey (setting : Setting) (function : String) (written : List Field) (key : Column)
    (row : Nat) : KeyExpression :=
  if !key.isIdentity then .parameter key.name row
  else if Field.anyNamed written setting key.name then
    .parameterElseGenerated key.name row function
  else .generated function

/-- The function that gives the last key that MySQL has generated. -/
def mySqlLastKey : String := "LAST_INSERT_ID()"

/-- The function that gives the last key that SQLite has generated. -/
def sqliteLastKey : String := "last_insert_rowid()"

/-- A reported key; the row is reported with it inside a batch. -/
def report (batched : Bool) (row : Nat) (expression : KeyExpression) : KeyReport where
  expression := expression
  row := if batched then some row else none

def keySelection (batched : Bool) (row : Nat) (expression : KeyExpression) : List Statement :=
  [.selectKey (report batched row expression)]

def insertTail (compiler : Compiler) (key : Option Column) (row : Nat) (batched : Bool) :
    KeyTail :=
  match key, compiler.dialect with
  | some key, some .sqlServer => { behind := keySelection batched row (scopeKey key row) }
  | some key, some .postgreSql => { returned := report batched row (.returned key.name) }
  | some key, some .mySql =>
      { behind :=
          keySelection batched row (lastKey compiler.setting mySqlLastKey [] key row) }
  | some key, some .sqlite =>
      { behind :=
          keySelection batched row (lastKey compiler.setting sqliteLastKey [] key row) }
  | some _, none => {}
  | none, _ => {}

/-- A compiler with a policy of its own does not look at the shared one. -/
theorem policy_of_own {compiler : Compiler} {policy : KeyPolicy}
    (own : compiler.keyPolicy = some policy) (configuration : Configuration) :
    compiler.policy configuration = .ok policy := by
  simp [Compiler.policy, own]

/-- No key is reported where no column is picked. -/
@[simp]
theorem insertTail_none (compiler : Compiler) (row : Nat) (batched : Bool) :
    compiler.insertTail none row batched = {} := by
  simp [insertTail]

end Compiler

end SqlCompiler
