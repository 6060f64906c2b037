import SqlCompiler.Compiler.Write

/-!
# Compiling into a growing text

A caller hands in a text that may hold something already.  A session works on
this text step by step: it makes checks, drops what was written before and
writes words.  A refusal ends a session at once and leaves the text as it
stands at that moment, so what a refused operation leaves behind depends on
where its checks stand.  Every operation makes all its checks first, then
drops the old text, and then writes its statements word by word, those of a
batch row by row.
-/

namespace SqlCompiler

/-- Steps on a growing text; a refusal ends them and leaves the text as it stands. -/
abbrev Session := ExceptT CompileError (StateM StatementText)

namespace Session

variable {α : Type}

/-- Go on with the result of a check, unless it refuses. -/
def require (check : Except CompileError α) : Session α :=
  .mk (pure check)

def clear : Session Unit :=
  set ({} : StatementText)

def write (word : String) : Session Unit :=
  modify (·.write word)

def finished : Session String := do
  let text ← get
  return text.finished

def writeStatement (setting : Setting) (statement : Statement) : Session Unit :=
  (statement.words setting).forM write

def writeStatements (setting : Setting) (statements : List Statement) : Session Unit :=
  statements.forM (writeStatement setting)

/-- The result of a session that starts with a text, and the text that it leaves behind. -/
def runOn (session : Session α) (before : StatementText) :
    Except CompileError α × StatementText :=
  (ExceptT.run session).run before

end Session

namespace Compiler

open Session

variable (compiler : Compiler) (configuration : Configuration) (request : Request)

def insertRowByRowSession (extent : Extent) : Session Unit := do
  let plan ← require (compiler.planInsert configuration request extent)
  let rows := extent.rows request
  clear
  (List.range rows).forM fun row =>
    writeStatements compiler.setting (compiler.insertRow request.target plan (1 < rows) row)

/-- The steps of an insert that SQL Server makes by one statement. -/
def insertNumberedRowsSession : Session Unit := do
  if request.rows = 1 then compiler.insertRowByRowSession configuration request .oneRow
  else
    require (request.checkCommon compiler.setting)
    require (request.checkBatch compiler.setting)
    require request.checkFields
    require (request.checkMapping compiler.setting)
    let fields ← require (request.insertableFields compiler.setting)
    let key ← require (compiler.reportedKey configuration request)
    clear
    writeStatements compiler.setting (insertBatch request.target { fields, key } request.rows)

def insertSession (extent : Extent) : Session Unit :=
  if extent = .batch ∧ compiler.dialect = some .sqlServer then
    compiler.insertNumberedRowsSession configuration request
  else compiler.insertRowByRowSession configuration request extent

def updateSession (extent : Extent) : Session Unit := do
  let plan ← require (compiler.planUpdate request extent)
  clear
  (List.range (extent.rows request)).forM fun row =>
    writeStatement compiler.setting (updateRow request.target plan row)

def mergeSession (extent : Extent) : Session Unit := do
  match compiler.dialect with
  | none => require (.error .dialectRequired)
  | some dialect =>
      let plan ← require (compiler.planMerge configuration request extent)
      let rows := extent.rows request
      clear
      (List.range rows).forM fun row =>
        writeStatements compiler.setting
          (mergeRow compiler.setting dialect request.target plan (1 < rows) row)

def querySession (top : Option Nat) (scope : Scope) : Session Unit := do
  require (request.checkCommon compiler.setting)
  require request.checkFields
  clear
  writeStatement compiler.setting (compiler.queryStatement request top scope)

def batchQuerySession (page rows : UInt64) : Session Unit := do
  match compiler.dialect with
  | none => require (.error .dialectRequired)
  | some dialect =>
      let positions ← require (compiler.planPage request page rows)
      clear
      writeStatement compiler.setting (pageStatement dialect request rows positions)

def truncateAtOnceSession : Session Unit := do
  require (request.checkCommon compiler.setting)
  require request.checkNoHints
  clear
  writeStatement compiler.setting (.truncate request.table)

def truncateByDeletionSession : Session Unit := do
  require (request.checkCommon compiler.setting)
  require request.checkNoHints
  clear
  writeStatement compiler.setting (.delete { table := request.table, hints := none } none)
  writeStatement compiler.setting .vacuum

def truncateSession : Session Unit :=
  if compiler.dialect = some .sqlite then compiler.truncateByDeletionSession request
  else compiler.truncateAtOnceSession request

/-- The session of an operation that needs the common checks only. -/
def plainSession (statement : Statement) : Session Unit := do
  require (request.checkCommon compiler.setting)
  clear
  writeStatement compiler.setting statement

/-- The steps of an operation on the text of its caller. -/
def session (operation : Operation) : Session Unit :=
  match operation with
  | .count scope => compiler.plainSession request (compiler.countStatement request scope)
  | .anyRow => compiler.plainSession request (compiler.anyRowStatement request)
  | .aggregate function field scope =>
      compiler.plainSession request (compiler.aggregateStatement request function field scope)
  | .delete scope => compiler.plainSession request (deleteStatement request scope)
  | .truncate => compiler.truncateSession request
  | .insert extent => compiler.insertSession configuration request extent
  | .update extent => compiler.updateSession request extent
  | .query top => compiler.querySession request top .filtered
  | .queryAll => compiler.querySession request none .allRows
  | .batchQuery page rows => compiler.batchQuerySession request page rows
  | .merge extent => compiler.mergeSession configuration request extent

end Compiler

end SqlCompiler
