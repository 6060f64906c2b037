import SqlCompiler.Compiler.Read

/-!
# Compiling operations that write rows

All checks of an operation come first and give a plan; the statements then
follow from the plan, row by row.  A batch repeats the statements of one row
with the number of the row, except for inserts on SQL Server, which write a
batch in one statement.  Where a dialect has a way of its own it makes its
checks by itself, and they are proved to be those of the others.
-/

namespace SqlCompiler

namespace Extent

/-- The check that the rows of a request can be written together. -/
def check (extent : Extent) (request : Request) (setting : Setting) :
    Except CompileError Unit :=
  match extent with
  | .oneRow => .ok ()
  | .batch => request.checkBatch setting

def rows (extent : Extent) (request : Request) : Nat :=
  match extent with
  | .oneRow => 1
  | .batch => request.rows

/-- An operation writes at least one row. -/
theorem rows_pos (extent : Extent) (request : Request) : 0 < extent.rows request := by
  cases extent with
  | oneRow => exact Nat.one_pos
  | batch => exact request.rows_pos

end Extent

namespace Compiler

def deleteStatement (request : Request) (scope : Scope) : Statement :=
  .delete request.target (scope.filter request)

def delete (compiler : Compiler) (request : Request) (scope : Scope) :
    Except CompileError (List Statement) := do
  request.checkCommon compiler.setting
  .ok [deleteStatement request scope]

def truncateAtOnce (compiler : Compiler) (request : Request) :
    Except CompileError (List Statement) := do
  request.checkCommon compiler.setting
  request.checkNoHints
  .ok [.truncate request.table]

/-- SQLite removes all rows of a table by a deletion without hints. -/
def truncateByDeletion (compiler : Compiler) (request : Request) :
    Except CompileError (List Statement) := do
  request.checkCommon compiler.setting
  request.checkNoHints
  .ok [.delete { table := request.table, hints := none } none, .vacuum]

def truncate (compiler : Compiler) (request : Request) :
    Except CompileError (List Statement) :=
  if compiler.dialect = some .sqlite then compiler.truncateByDeletion request
  else compiler.truncateAtOnce request

/-- The statements that remove all rows of a table. -/
def truncateStatements (compiler : Compiler) (request : Request) : List Statement :=
  if compiler.dialect = some .sqlite then
    [.delete { table := request.table, hints := none } none, .vacuum]
  else [.truncate request.table]

/-- The dialects make the same checks and differ in their statements only. -/
theorem truncate_eq (compiler : Compiler) (request : Request) :
    compiler.truncate request =
      request.checkCommon compiler.setting >>= fun _ =>
        request.checkNoHints >>= fun _ => .ok (compiler.truncateStatements request) := by
  unfold truncate truncateStatements
  split <;> rfl

/-- What an insert writes and reports. -/
structure InsertPlan where
  fields : List Field
  key : Option Column
  deriving Repr

def planInsert (compiler : Compiler) (configuration : Configuration) (request : Request)
    (extent : Extent) : Except CompileError InsertPlan := do
  request.checkCommon compiler.setting
  extent.check request compiler.setting
  request.checkFields
  request.checkMapping compiler.setting
  let fields ← request.insertableFields compiler.setting
  let key ← compiler.reportedKey configuration request
  .ok { fields, key }

def insertRow (compiler : Compiler) (target : Target) (plan : InsertPlan) (batched : Bool)
    (row : Nat) : List Statement :=
  let tail := compiler.insertTail plan.key row batched
  .insert target plan.fields row tail.returned :: tail.behind

def insertBatch (target : Target) (plan : InsertPlan) (rows : Nat) : List Statement :=
  [.insertRows target plan.fields rows
    (plan.key.map (fun key => report false 0 (.inserted key.name)))]

/-- Insert the rows of a request one after the other. -/
def insertRowByRow (compiler : Compiler) (configuration : Configuration) (request : Request)
    (extent : Extent) : Except CompileError (List Statement) := do
  let plan ← compiler.planInsert configuration request extent
  let rows := extent.rows request
  .ok ((List.range rows).flatMap (compiler.insertRow request.target plan (1 < rows)))

/--
Insert a batch by one statement.

This is left to SQL Server, which makes the checks for it itself.  A batch of
one row is inserted as a row that is no batch, without the check for batches.
-/
def insertNumberedRows (compiler : Compiler) (configuration : Configuration)
    (request : Request) : Except CompileError (List Statement) := do
  if request.rows = 1 then compiler.insertRowByRow configuration request .oneRow
  else
    request.checkCommon compiler.setting
    request.checkBatch compiler.setting
    request.checkFields
    request.checkMapping compiler.setting
    let fields ← request.insertableFields compiler.setting
    let key ← compiler.reportedKey configuration request
    .ok (insertBatch request.target { fields, key } request.rows)

def insert (compiler : Compiler) (configuration : Configuration) (request : Request)
    (extent : Extent) : Except CompileError (List Statement) :=
  if extent = .batch ∧ compiler.dialect = some .sqlServer then
    compiler.insertNumberedRows configuration request
  else compiler.insertRowByRow configuration request extent

/-- The statements of an accepted insert; SQL Server writes several rows at once. -/
def insertStatements (compiler : Compiler) (target : Target) (plan : InsertPlan) (rows : Nat) :
    List Statement :=
  if compiler.dialect = some .sqlServer ∧ 1 < rows then insertBatch target plan rows
  else (List.range rows).flatMap (compiler.insertRow target plan (1 < rows))

/-- A batch of one row passes the check for batches. -/
theorem planInsert_batch_of_rows_eq_one {request : Request} (one : request.rows = 1)
    (compiler : Compiler) (configuration : Configuration) :
    compiler.planInsert configuration request .batch =
      compiler.planInsert configuration request .oneRow := by
  simp [planInsert, Extent.check, Request.checkBatch, one]

theorem insertRowByRow_eq {compiler : Compiler} {request : Request} {extent : Extent}
    (apart : ¬(compiler.dialect = some .sqlServer ∧ 1 < extent.rows request))
    (configuration : Configuration) :
    compiler.insertRowByRow configuration request extent =
      compiler.planInsert configuration request extent >>= fun plan =>
        .ok (compiler.insertStatements request.target plan (extent.rows request)) := by
  simp only [insertStatements, if_neg apart]
  rfl

theorem insertNumberedRows_eq {compiler : Compiler}
    (numbered : compiler.dialect = some .sqlServer) (configuration : Configuration)
    (request : Request) :
    compiler.insertNumberedRows configuration request =
      compiler.planInsert configuration request .batch >>= fun plan =>
        .ok (compiler.insertStatements request.target plan request.rows) := by
  unfold insertNumberedRows
  by_cases one : request.rows = 1
  · have apart : ¬(compiler.dialect = some .sqlServer ∧ 1 < Extent.oneRow.rows request) :=
      fun both => Nat.lt_irrefl 1 both.2
    rw [if_pos one, insertRowByRow_eq apart, planInsert_batch_of_rows_eq_one one, one]
    rfl
  · have several : 1 < request.rows := by
      have positive := request.rows_pos
      omega
    simp only [if_neg one, insertStatements, if_pos (And.intro numbered several), planInsert,
      Extent.check, bind_assoc]
    rfl

/-- Whichever way rows are inserted, the same checks come first. -/
theorem insert_eq (compiler : Compiler) (configuration : Configuration) (request : Request)
    (extent : Extent) :
    compiler.insert configuration request extent =
      compiler.planInsert configuration request extent >>= fun plan =>
        .ok (compiler.insertStatements request.target plan (extent.rows request)) := by
  unfold insert
  split
  next numbered =>
    obtain ⟨rfl, numbered⟩ := numbered
    exact insertNumberedRows_eq numbered configuration request
  next other =>
    refine insertRowByRow_eq ?_ configuration
    rintro ⟨numbered, several⟩
    cases extent with
    | oneRow => exact Nat.lt_irrefl 1 several
    | batch => exact other ⟨rfl, numbered⟩

/-- What an update writes and in which rows. -/
structure UpdatePlan where
  fields : List Field
  condition : UpdateCondition
  deriving Repr

/-- The checks of an update of rows that are matched by qualifiers. -/
def planQualifiedUpdate (compiler : Compiler) (request : Request) :
    Except CompileError UpdatePlan := do
  let qualifiers ← request.resolveQualifiers compiler.setting
  let fields ← request.someUpdatableFields compiler.setting qualifiers
  .ok { fields, condition := .qualifiers qualifiers }

/--
The checks of an update of the rows that a filter accepts.

The parameters of the filter are renamed, so that a column can be both
assigned and compared.
-/
def planFilteredUpdate (compiler : Compiler) (request : Request) (filter : Filter) :
    Except CompileError UpdatePlan := do
  let fields ← request.someUpdatableFields compiler.setting []
  .ok { fields, condition := .filter filter.forUpdate }

/-- The checks of an update; only an update of one row heeds the filter. -/
def planUpdate (compiler : Compiler) (request : Request) (extent : Extent) :
    Except CompileError UpdatePlan := do
  request.checkCommon compiler.setting
  extent.check request compiler.setting
  request.checkFields
  match extent, request.effectiveFilter with
  | .oneRow, some filter => compiler.planFilteredUpdate request filter
  | _, _ => compiler.planQualifiedUpdate request

def updateRow (target : Target) (plan : UpdatePlan) (row : Nat) : Statement :=
  .update target plan.fields row plan.condition

def update (compiler : Compiler) (request : Request) (extent : Extent) :
    Except CompileError (List Statement) := do
  let plan ← compiler.planUpdate request extent
  .ok ((List.range (extent.rows request)).map (updateRow request.target plan))

/-- What a merge writes and reports. -/
structure MergePlan where
  parts : MergeFields
  key : Option Column
  deriving Repr

def planMerge (compiler : Compiler) (configuration : Configuration) (request : Request)
    (extent : Extent) : Except CompileError MergePlan := do
  request.checkCommon compiler.setting
  extent.check request compiler.setting
  request.checkFields
  request.checkMapping compiler.setting
  let qualifiers ← request.resolveQualifiers compiler.setting
  let insertable ← request.insertableFields compiler.setting
  let key ← compiler.reportedKey configuration request
  .ok
    { parts :=
        { fields := request.fields
          qualifiers
          insertable
          updatable := request.updatableFields compiler.setting qualifiers }
      key }

/-- The statements that read the key of a merged row back with a function. -/
def mergedKey (setting : Setting) (function : String) (plan : MergePlan) (batched : Bool)
    (row : Nat) : List Statement :=
  match plan.key with
  | some key => keySelection batched row (lastKey setting function plan.parts.fields key row)
  | none => []

def mergeRow (setting : Setting) (dialect : Dialect) (target : Target) (plan : MergePlan)
    (batched : Bool) (row : Nat) : List Statement :=
  match dialect with
  | .sqlServer =>
      [.merge target plan.parts row
        (plan.key.map (fun key => report batched row (.inserted key.name)))]
  | .postgreSql =>
      [.upsert target plan.parts row (.onConflict "EXCLUDED")
        (plan.key.map (fun key => report batched row (.returned key.name)))]
  | .mySql =>
      .upsert target plan.parts row .onDuplicateKey none ::
        mergedKey setting mySqlLastKey plan batched row
  | .sqlite =>
      .upsert target plan.parts row (.onConflict "excluded") none ::
        mergedKey setting sqliteLastKey plan batched row

/-- Insert rows that do not exist and update those that do. -/
def merge (compiler : Compiler) (configuration : Configuration) (request : Request)
    (extent : Extent) : Except CompileError (List Statement) := do
  match compiler.dialect with
  | none => .error .dialectRequired
  | some dialect =>
      let plan ← compiler.planMerge configuration request extent
      let rows := extent.rows request
      .ok ((List.range rows).flatMap
        (mergeRow compiler.setting dialect request.target plan (1 < rows)))

end Compiler

end SqlCompiler
