import SqlCompiler.Proofs.Compiler.BatchParameters
import SqlCompiler.Proofs.Statement.Parts

/-!
# Batches are their rows one after the other

Except for an insert on SQL Server a batch has a text for every row.  These
texts do not depend on how many rows there are, they stand behind each other
with one space between them, and each of them ends with the terminator.  In the
text of a row all placeholders have the number of the row, and a key that is
reported is reported once, together with this number.
-/

namespace SqlCompiler

namespace Request

variable {request : Request} {setting : Setting}

def withBatchSize (request : Request) (size : Nat) : Request :=
  { request with batchSize := size }

theorem rows_withBatchSize {size : Nat} (several : 1 < size) :
    (request.withBatchSize size).rows = size :=
  Nat.max_eq_left (Nat.le_of_lt several)

theorem withBatchSize_rows (several : 1 < request.rows) :
    request.withBatchSize request.rows = request := by
  have same : request.rows = request.batchSize := by
    unfold rows at several ⊢
    omega
  rw [same]
  rfl

/-- Several rows are accepted for the setting, not for their number. -/
theorem checkBatch_withBatchSize (several : 1 < request.rows)
    (checked : request.checkBatch setting = .ok ()) (size : Nat) :
    (request.withBatchSize size).checkBatch setting = .ok () := by
  have allowed : setting.allowsSeveralStatements = true := by
    cases allowed : setting.allowsSeveralStatements with
    | true => rfl
    | false => simp [checkBatch, several, allowed] at checked
  simp [checkBatch, allowed]

end Request

namespace Statement

/-- The text of some statements, spelled from their parts. -/
def finishedText (setting : Setting) (statements : List Statement) : String :=
  (StatementText.ofWords (Parts.spell setting (allParts setting statements))).finished

/-- The texts of some rows with one space between them. -/
def rowsText (setting : Setting) (row : Nat → List Statement) (rows : Nat) : String :=
  " ".intercalate ((List.range rows).map fun index => finishedText setting (row index))

theorem rowsText_succ (setting : Setting) (row : Nat → List Statement) {rows : Nat}
    (positive : 0 < rows) :
    rowsText setting row (rows + 1) =
      rowsText setting row rows ++ " " ++ finishedText setting (row rows) := by
  have front : (List.range rows).map (fun index => finishedText setting (row index)) ≠ [] := by
    simpa using Nat.ne_of_gt positive
  rw [rowsText, List.range_succ, List.map_append, List.map_singleton,
    String.intercalate_append_of_ne_nil front (List.cons_ne_nil _ _),
    String.intercalate_singleton, ← rowsText]

/-- The statements of a row write this row: its values, and its key with its number. -/
structure WritesRow (setting : Setting) (fields : RowFields) (key : Option Column) (row : Nat)
    (statements : List Statement) : Prop where
  ends : ∃ front, finishedText setting statements = front ++ ";"
  fragments : ∀ mark, (allFragments setting statements).map (Fragments.spell mark) =
    Parts.spell (setting.withMark mark) (allParts (setting.withMark mark) statements)
  placeholders : allPlaceholders setting statements = fields.placeholders setting row
  reports : ∃ expression : Column → KeyExpression,
    (Parts.reports (allParts setting statements)).map (·.text setting) =
      key.toList.map fun key =>
        (expression key).text setting ++ " AS " ++ setting.quote "Result" ++ ", " ++
          toString row ++ " AS " ++ setting.quote "Index"

theorem WritesRow.ne_nil {setting : Setting} {fields : RowFields} {key : Option Column}
    {row : Nat} {statements : List Statement}
    (writes : WritesRow setting fields key row statements) : statements ≠ [] := by
  rintro rfl
  obtain ⟨front, ends⟩ := writes.ends
  have blank : finishedText setting [] = "" := rfl
  rw [blank] at ends
  simpa using congrArg String.toList ends

theorem writesRow_of_reports {setting : Setting} {fields : RowFields} {key : Option Column}
    {row : Nat} {statements : List Statement} (nonempty : statements ≠ [])
    (listed : statements.flatMap (placeholders setting) = fields.placeholders setting row)
    (expression : Column → KeyExpression)
    (reported : statements.flatMap (fun statement => Parts.reports (statement.parts setting)) =
      key.toList.map fun key => { expression := expression key, row := some row }) :
    WritesRow setting fields key row statements where
  ends := by
    rw [finishedText, spell_allParts]
    exact (terminated_allWords setting nonempty).exists_finished
  fragments mark := by
    rw [map_spell_allFragments, spell_allParts]
  placeholders := by
    rw [allPlaceholders_eq_flatMap, listed]
  reports := by
    refine ⟨expression, ?_⟩
    rw [reports_allParts, reported, List.map_map]
    rfl

end Statement

namespace Compiler

variable {compiler : Compiler} {configuration : Configuration} {request : Request}
  {operation : Operation}

/-- The operation writes a batch row by row. -/
inductive RowByRow (compiler : Compiler) : Operation → Prop where
  | insert (separate : compiler.dialect ≠ some .sqlServer) : RowByRow compiler (.insert .batch)
  | update : RowByRow compiler (.update .batch)
  | merge : RowByRow compiler (.merge .batch)

/-- The key that is reported with each row: the one that the policy picks, if rows report keys. -/
inductive RowKey (compiler : Compiler) (configuration : Configuration) (request : Request) :
    Operation → Option Column → Prop where
  | insert {key : Option Column} (chosen : compiler.dialect.isSome = true)
      (picked : compiler.reportedKey configuration request = .ok key) :
      RowKey compiler configuration request (.insert .batch) key
  | standard (noDialect : compiler.dialect = none) :
      RowKey compiler configuration request (.insert .batch) none
  | update : RowKey compiler configuration request (.update .batch) none
  | merge {key : Option Column}
      (picked : compiler.reportedKey configuration request = .ok key) :
      RowKey compiler configuration request (.merge .batch) key

/-- What a batch compiles to row by row, for all numbers of rows. -/
structure CompilesRows (compiler : Compiler) (configuration : Configuration) (request : Request)
    (operation : Operation) (fields : RowFields) (key : Option Column)
    (row : Nat → List Statement) : Prop where
  compiled : ∀ size, 1 < size →
    compiler.compile configuration operation (request.withBatchSize size) =
      .ok ((List.range size).flatMap row)
  written : BatchFields compiler request operation (fields.stored ++ fields.compared)
  reported : RowKey compiler configuration request operation key
  rows : ∀ index, Statement.WritesRow compiler.setting fields key index (row index)

theorem reports_keySelection (setting : Setting) (batched : Bool) (row : Nat)
    (expression : KeyExpression) :
    (keySelection batched row expression).flatMap
        (fun statement => Parts.reports (statement.parts setting)) =
      [report batched row expression] := by
  simp [keySelection]

/-- How the key of an inserted row is read back, if there is a dialect. -/
def insertedKey (compiler : Compiler) (row : Nat) (key : Column) : KeyExpression :=
  match compiler.dialect with
  | some .sqlServer => scopeKey key row
  | some .mySql => lastKey compiler.setting mySqlLastKey [] key row
  | some .sqlite => lastKey compiler.setting sqliteLastKey [] key row
  | some .postgreSql | none => .returned key.name

theorem reports_insertRow (target : Target) (plan : InsertPlan) (row : Nat)
    (chosen : compiler.dialect.isSome = true) :
    (compiler.insertRow target plan true row).flatMap
        (fun statement => Parts.reports (statement.parts compiler.setting)) =
      plan.key.toList.map fun key =>
        { expression := compiler.insertedKey row key, row := some row } := by
  obtain ⟨dialect, found⟩ := Option.isSome_iff_exists.mp chosen
  unfold insertRow insertTail insertedKey
  cases plan.key <;> cases dialect <;>
    simp [found, reports_keySelection, report]

theorem reports_insertRow_standard (target : Target) (plan : InsertPlan) (row : Nat)
    (noDialect : compiler.dialect = none) :
    (compiler.insertRow target plan true row).flatMap
        (fun statement => Parts.reports (statement.parts compiler.setting)) = [] := by
  unfold insertRow insertTail
  cases plan.key <;> simp [noDialect]

/-- How the key of a merged row is read back. -/
def mergedExpression (setting : Setting) (dialect : Dialect) (plan : MergePlan) (row : Nat)
    (key : Column) : KeyExpression :=
  match dialect with
  | .sqlServer => .inserted key.name
  | .postgreSql => .returned key.name
  | .mySql => lastKey setting mySqlLastKey plan.parts.fields key row
  | .sqlite => lastKey setting sqliteLastKey plan.parts.fields key row

theorem reports_mergeRow (setting : Setting) (dialect : Dialect) (target : Target)
    (plan : MergePlan) (row : Nat) :
    (mergeRow setting dialect target plan true row).flatMap
        (fun statement => Parts.reports (statement.parts setting)) =
      plan.key.toList.map fun key =>
        { expression := mergedExpression setting dialect plan row key, row := some row } := by
  unfold mergeRow mergedKey mergedExpression
  cases plan.key <;> cases dialect <;> simp [reports_keySelection, report]

section Plans

variable (several : 1 < request.rows) (size : Nat)

include several

theorem planInsert_withBatchSize {plan : InsertPlan}
    (planned : compiler.planInsert configuration request .batch = .ok plan) :
    compiler.planInsert configuration (request.withBatchSize size) .batch = .ok plan := by
  obtain ⟨common, batch, fields, mapping, kept, picked⟩ := planInsert_eq_ok_iff.mp planned
  exact planInsert_eq_ok_iff.mpr
    ⟨common, Request.checkBatch_withBatchSize several batch size, fields, mapping, kept, picked⟩

theorem planMerge_withBatchSize {plan : MergePlan}
    (planned : compiler.planMerge configuration request .batch = .ok plan) :
    compiler.planMerge configuration (request.withBatchSize size) .batch = .ok plan := by
  obtain ⟨common, batch, rest⟩ := planMerge_eq_ok_iff.mp planned
  exact planMerge_eq_ok_iff.mpr
    ⟨common, Request.checkBatch_withBatchSize several batch size, rest⟩

theorem planUpdate_withBatchSize {plan : UpdatePlan}
    (planned : compiler.planUpdate request .batch = .ok plan) :
    compiler.planUpdate (request.withBatchSize size) .batch = .ok plan := by
  obtain ⟨common, batch, rest⟩ := planUpdate_eq_ok_iff.mp planned
  exact planUpdate_eq_ok_iff.mpr
    ⟨common, Request.checkBatch_withBatchSize several batch size, rest⟩

end Plans

theorem compilesRows_insert {statements : List Statement} (several : 1 < request.rows)
    (separate : compiler.dialect ≠ some .sqlServer)
    (compiled : compiler.compile configuration (.insert .batch) request = .ok statements) :
    ∃ fields key row,
      CompilesRows compiler configuration request (.insert .batch) fields key row := by
  obtain ⟨plan, planned, -⟩ := compile_insert_eq_ok_iff.mp compiled
  obtain ⟨-, -, -, -, kept, picked⟩ := planInsert_eq_ok_iff.mp planned
  have oneByOne (rows : Nat) : ¬(compiler.dialect = some .sqlServer ∧ 1 < rows) :=
    fun together => separate together.1
  have compiledAt (size : Nat) (many : 1 < size) :
      compiler.compile configuration (.insert .batch) (request.withBatchSize size) =
        .ok ((List.range size).flatMap (compiler.insertRow request.target plan true)) := by
    refine compile_insert_eq_ok_iff.mpr
      ⟨plan, planInsert_withBatchSize several size planned, ?_⟩
    rw [Extent.rows, Request.rows_withBatchSize many, insertStatements, if_neg (oneByOne size),
      decide_eq_true many]
    rfl
  have written : BatchFields compiler request (.insert .batch)
      ((compiler.insertedFields plan 2).stored ++ (compiler.insertedFields plan 2).compared) := by
    rw [insertedFields, List.append_nil]
    exact .insert kept
  have placeholders := placeholders_insertRow compiler request.target plan (oneByOne 2)
  cases chosen : compiler.dialect.isSome with
  | true =>
      exact ⟨_, plan.key, _, compiledAt, written, .insert chosen picked, fun index =>
        Statement.writesRow_of_reports (List.cons_ne_nil _ _) (placeholders index) _
          (reports_insertRow request.target plan index chosen)⟩
  | false =>
      have noDialect : compiler.dialect = none := by simpa using chosen
      exact ⟨_, none, _, compiledAt, written, .standard noDialect, fun index =>
        Statement.writesRow_of_reports (List.cons_ne_nil _ _) (placeholders index)
          (fun key => .returned key.name)
          (reports_insertRow_standard request.target plan index noDialect)⟩

theorem compilesRows_update {statements : List Statement} (several : 1 < request.rows)
    (compiled : compiler.compile configuration (.update .batch) request = .ok statements) :
    ∃ fields key row,
      CompilesRows compiler configuration request (.update .batch) fields key row := by
  obtain ⟨⟨fields, condition⟩, planned, -⟩ := compile_update_eq_ok_iff.mp compiled
  obtain ⟨-, -, -, qualified⟩ := planUpdate_eq_ok_iff.mp planned
  obtain ⟨qualifiers, resolved, kept, rfl⟩ := planQualifiedUpdate_eq_ok_iff.mp qualified
  let plan : UpdatePlan := { fields, condition := .qualifiers qualifiers }
  have compiledAt (size : Nat) (many : 1 < size) :
      compiler.compile configuration (.update .batch) (request.withBatchSize size) =
        .ok ((List.range size).flatMap fun index => [updateRow request.target plan index]) := by
    refine compile_update_eq_ok_iff.mpr
      ⟨plan, planUpdate_withBatchSize several size planned, ?_⟩
    rw [Extent.rows, Request.rows_withBatchSize many, List.map_eq_flatMap]
    rfl
  refine ⟨{ stored := fields, compared := qualifiers }, none, _, compiledAt,
    .update resolved kept, .update, fun index => ?_⟩
  refine Statement.writesRow_of_reports (List.cons_ne_nil _ _) ?_ (fun key => .returned key.name)
    ?_
  · rw [List.flatMap_singleton]
    exact placeholders_updateRow compiler.setting request.target fields qualifiers index
  · rw [List.flatMap_singleton]
    exact Statement.reports_update ..

theorem compilesRows_merge {statements : List Statement} (several : 1 < request.rows)
    (compiled : compiler.compile configuration (.merge .batch) request = .ok statements) :
    ∃ fields key row,
      CompilesRows compiler configuration request (.merge .batch) fields key row := by
  obtain ⟨dialect, plan, chosen, planned, -⟩ := compile_merge_eq_ok_iff.mp compiled
  obtain ⟨-, -, -, -, sameFields, -, -, -, picked⟩ := planMerge_eq_ok_iff.mp planned
  have compiledAt (size : Nat) (many : 1 < size) :
      compiler.compile configuration (.merge .batch) (request.withBatchSize size) =
        .ok ((List.range size).flatMap
          (mergeRow compiler.setting dialect request.target plan true)) := by
    refine compile_merge_eq_ok_iff.mpr
      ⟨dialect, plan, chosen, planMerge_withBatchSize several size planned, ?_⟩
    rw [Extent.rows, Request.rows_withBatchSize many, decide_eq_true many]
    rfl
  have written : BatchFields compiler request (.merge .batch)
      ((mergedFields compiler.setting dialect plan).stored ++
        (mergedFields compiler.setting dialect plan).compared) := by
    rw [mergedFields, sameFields, List.append_nil]
    exact .merge
  refine ⟨_, plan.key, _, compiledAt, written, .merge picked, fun index =>
    Statement.writesRow_of_reports ?_
      (placeholders_mergeRow compiler.setting dialect request.target plan true index) _
      (reports_mergeRow compiler.setting dialect request.target plan index)⟩
  cases dialect <;> exact List.cons_ne_nil _ _

theorem exists_compilesRows {statements : List Statement} (several : 1 < request.rows)
    (rowByRow : compiler.RowByRow operation)
    (compiled : compiler.compile configuration operation request = .ok statements) :
    ∃ fields key row, CompilesRows compiler configuration request operation fields key row := by
  cases rowByRow with
  | insert separate => exact compilesRows_insert several separate compiled
  | update => exact compilesRows_update several compiled
  | merge => exact compilesRows_merge several compiled

/-- The words of the rows give their texts with one space between them. -/
theorem finished_written_rows {row : Nat → List Statement} (nonempty : ∀ index, row index ≠ [])
    {rows : Nat} (positive : 0 < rows) :
    (compiler.written ((List.range rows).flatMap row)).finished =
      Statement.rowsText compiler.setting row rows := by
  obtain ⟨rows, rfl⟩ := Nat.exists_eq_succ_of_ne_zero (Nat.ne_of_gt positive)
  have words : Statement.allWords compiler.setting ((List.range (rows + 1)).flatMap row) =
      StatementText.rowWords (fun index => Statement.allWords compiler.setting (row index))
        (rows + 1) :=
    List.flatMap_assoc
  rw [written, Nat.succ_eq_add_one, words, StatementText.finished_rowWords fun index =>
    Statement.terminated_allWords compiler.setting (nonempty index)]
  simp only [Statement.rowsText, Statement.finishedText, Statement.spell_allParts]

/-- What a batch compiles to row by row has the texts of the rows. -/
theorem CompilesRows.text {fields : RowFields} {key : Option Column}
    {row : Nat → List Statement}
    (rows : CompilesRows compiler configuration request operation fields key row) {size : Nat}
    (many : 1 < size) :
    compiler.text configuration operation (request.withBatchSize size) =
      .ok (Statement.rowsText compiler.setting row size) := by
  have nonempty (index : Nat) := (rows.rows index).ne_nil
  rw [text_eq_ok_iff]
  exact ⟨_, rows.compiled size many,
    (finished_written_rows nonempty (Nat.zero_lt_of_lt many)).symm⟩

/--
A batch that is written row by row is the texts of its rows with one space
between them.  The text of a row does not depend on how many rows there are,
so one more row adds its text to the text of the others.
-/
theorem batch_is_rows (rowByRow : compiler.RowByRow operation) (several : 1 < request.rows)
    {text : String}
    (accepted : compiler.text configuration operation request = .ok text) :
    ∃ fields key row,
      CompilesRows compiler configuration request operation fields key row ∧
      text = Statement.rowsText compiler.setting row request.rows ∧
      ∀ size, 1 < size →
        compiler.text configuration operation (request.withBatchSize size) =
            .ok (Statement.rowsText compiler.setting row size) ∧
          compiler.text configuration operation (request.withBatchSize (size + 1)) =
            .ok (Statement.rowsText compiler.setting row size ++ " " ++
              Statement.finishedText compiler.setting (row size)) := by
  obtain ⟨statements, compiled, -⟩ := text_eq_ok_iff.mp accepted
  obtain ⟨fields, key, row, rows⟩ := exists_compilesRows several rowByRow compiled
  refine ⟨fields, key, row, rows, ?_, fun size many => ⟨rows.text many, ?_⟩⟩
  · have whole := rows.text several
    rw [Request.withBatchSize_rows several, accepted] at whole
    exact Except.ok.inj whole
  · rw [← Statement.rowsText_succ compiler.setting row (Nat.zero_lt_of_lt many)]
    exact rows.text (Nat.lt_succ_of_lt many)

/-- Two items with a code that is their primary key. -/
def codedItems : Request where
  table := "Item"
  fields := [{ name := "Code" }]
  primaryColumn := some (.primary "Code")
  batchSize := 2

def codedItemsText : String :=
  "INSERT INTO [Item] ( [Code] ) VALUES ( @Code ) ; " ++
    "SELECT @Code AS [Result], 0 AS [Index] ; " ++
    "INSERT INTO [Item] ( [Code] ) VALUES ( @Code_1 ) ; " ++
    "SELECT @Code_1 AS [Result], 1 AS [Index] ;"

theorem batch_is_rows_codedItems :
    Dialect.sqlite.compiler.RowByRow (.insert .batch) ∧ 1 < codedItems.rows ∧
      Dialect.sqlite.compiler.text .initial (.insert .batch) codedItems = .ok codedItemsText ∧
      ∃ fields key row,
        CompilesRows Dialect.sqlite.compiler .initial codedItems (.insert .batch) fields key row ∧
        codedItemsText = Statement.rowsText .sqlite row 2 ∧
        Dialect.sqlite.compiler.text .initial (.insert .batch) (codedItems.withBatchSize 3) =
          .ok (codedItemsText ++ " " ++ Statement.finishedText .sqlite (row 2)) := by
  have rowByRow : Dialect.sqlite.compiler.RowByRow (.insert .batch) := .insert (by decide)
  have accepted : Dialect.sqlite.compiler.text .initial (.insert .batch) codedItems =
      .ok codedItemsText := by
    rw [text_eq_map_joined]
    decide +kernel
  obtain ⟨fields, key, row, rows, whole, sizes⟩ := batch_is_rows rowByRow (by decide) accepted
  have whole : codedItemsText = Statement.rowsText .sqlite row 2 := whole
  obtain ⟨-, oneMore⟩ := sizes 2 (by decide)
  refine ⟨rowByRow, by decide, accepted, fields, key, row, rows, whole, ?_⟩
  rw [whole]
  exact oneMore

end Compiler

end SqlCompiler
