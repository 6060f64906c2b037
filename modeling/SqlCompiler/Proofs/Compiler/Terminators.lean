import Mathlib.Data.List.Basic
import SqlCompiler.Proofs.Compiler.Plan

/-!
# How many statements a text holds

Every statement ends with one terminator, so the terminators that are written
count the statements of a text.  A setting that allows one statement only is
heeded where the rows of a batch are counted and nowhere else: what is written
behind the first statement of one row, to read its key back or to reclaim the
space of a table, is written under such a setting as well.
-/

namespace SqlCompiler

/-- A word of a text: one inside a statement, or the terminator behind a statement. -/
inductive WrittenWord where
  | inside (word : String)
  | terminator
  deriving DecidableEq, Repr

def WrittenWord.spelling : WrittenWord → String
  | .inside word => word
  | .terminator => SqlCompiler.terminator

namespace Statement

def writtenWords (setting : Setting) (statement : Statement) : List WrittenWord :=
  (statement.body setting).map .inside ++ [.terminator]

def allWrittenWords (setting : Setting) (statements : List Statement) : List WrittenWord :=
  statements.flatMap (writtenWords setting)

theorem map_spelling_writtenWords (setting : Setting) (statement : Statement) :
    (statement.writtenWords setting).map WrittenWord.spelling = statement.words setting := by
  have inside : WrittenWord.spelling ∘ WrittenWord.inside = id := rfl
  rw [writtenWords, List.map_append, List.map_map, inside, List.map_id]
  rfl

theorem map_spelling_allWrittenWords (setting : Setting) (statements : List Statement) :
    (allWrittenWords setting statements).map WrittenWord.spelling =
      allWords setting statements := by
  rw [allWrittenWords, List.map_flatMap]
  exact List.flatMap_congr fun statement _ => map_spelling_writtenWords setting statement

theorem count_terminator_writtenWords (setting : Setting) (statement : Statement) :
    (statement.writtenWords setting).count .terminator = 1 := by
  have noneInside : WrittenWord.terminator ∉ (statement.body setting).map .inside := by
    simp
  rw [writtenWords, List.count_append, List.count_eq_zero_of_not_mem noneInside]
  rfl

theorem count_terminator_allWrittenWords (setting : Setting) (statements : List Statement) :
    (allWrittenWords setting statements).count .terminator = statements.length := by
  induction statements with
  | nil => rfl
  | cons statement rest ih =>
      rw [allWrittenWords, List.flatMap_cons, List.count_append, count_terminator_writtenWords,
        ← allWrittenWords, ih, List.length_cons, Nat.add_comm]

end Statement

/-- A setting that allows one statement only lets a batch of one row pass. -/
theorem Extent.rows_eq_one {extent : Extent} {request : Request} {setting : Setting}
    (single : setting.allowsSeveralStatements = false)
    (checked : extent.check request setting = .ok ()) : extent.rows request = 1 := by
  cases extent with
  | oneRow => rfl
  | batch =>
      have few : ¬1 < request.rows := by
        intro several
        simp [check, Request.checkBatch, several, single] at checked
      have positive := request.rows_pos
      simp only [rows]
      omega

namespace Dialect

/-- The key of an inserted row is read back by a statement of its own. -/
def selectsInsertedKey : Dialect → Bool
  | .sqlServer | .mySql | .sqlite => true
  | .postgreSql => false

/-- The key of a merged row is read back by a statement of its own. -/
def selectsMergedKey : Dialect → Bool
  | .mySql | .sqlite => true
  | .sqlServer | .postgreSql => false

end Dialect

namespace Compiler

variable {compiler : Compiler} {configuration : Configuration} {request : Request}
  {operation : Operation} {extent : Extent} {statements : List Statement}

/-- An operation on one row writes a second statement behind the first. -/
inductive AddsStatement (compiler : Compiler) (configuration : Configuration)
    (request : Request) : Operation → Prop where
  | truncate (sqlite : compiler.dialect = some .sqlite) :
      AddsStatement compiler configuration request .truncate
  | insert {extent : Extent} {key : Column}
      (reported : compiler.reportedKey configuration request = .ok (some key))
      (selects : compiler.dialect.any Dialect.selectsInsertedKey = true) :
      AddsStatement compiler configuration request (.insert extent)
  | merge {extent : Extent} {key : Column}
      (reported : compiler.reportedKey configuration request = .ok (some key))
      (selects : compiler.dialect.any Dialect.selectsMergedKey = true) :
      AddsStatement compiler configuration request (.merge extent)

/-- Two statements where one is added to the first, and one statement anywhere else. -/
def Counts (added : Prop) (statements : List Statement) : Prop :=
  statements.length = 1 ∧ ¬added ∨ statements.length = 2 ∧ added

theorem counts_truncateStatements :
    Counts (compiler.AddsStatement configuration request .truncate)
      (compiler.truncateStatements request) := by
  by_cases sqlite : compiler.dialect = some .sqlite
  · refine .inr ⟨?_, .truncate sqlite⟩
    simp [truncateStatements, sqlite]
  · refine .inl ⟨?_, fun | .truncate chosen => sqlite chosen⟩
    unfold truncateStatements
    split
    next chosen => exact absurd chosen sqlite
    next => rfl

theorem length_insertRow (target : Target) (plan : InsertPlan) (batched : Bool) (row : Nat) :
    (compiler.insertRow target plan batched row).length =
      1 + if compiler.dialect.any Dialect.selectsInsertedKey then plan.key.toList.length
        else 0 := by
  rw [insertRow, List.length_cons, Nat.add_comm]
  congr 1
  unfold insertTail
  cases plan.key with
  | none => simp
  | some key =>
      cases compiler.dialect with
      | none => rfl
      | some dialect => cases dialect <;> rfl

theorem length_mergeRow (setting : Setting) (dialect : Dialect) (target : Target)
    (plan : MergePlan) (batched : Bool) (row : Nat) :
    (mergeRow setting dialect target plan batched row).length =
      1 + if dialect.selectsMergedKey then plan.key.toList.length else 0 := by
  unfold mergeRow mergedKey
  cases plan.key <;> cases dialect <;> rfl

/-- A statement is added for a key that is read back by a statement of its own. -/
theorem counts_of_length {added : Prop} {selects : Bool} {key : Option Column}
    (length : statements.length = 1 + if selects then key.toList.length else 0)
    (added_iff : added ↔ selects = true ∧ ∃ column, key = some column) :
    Counts added statements := by
  rw [Counts, length, added_iff]
  cases selects <;> cases key <;> simp

theorem counts_insertRow {target : Target} {plan : InsertPlan} {batched : Bool} {row : Nat}
    (reported : compiler.reportedKey configuration request = .ok plan.key) :
    Counts (compiler.AddsStatement configuration request (.insert extent))
      (compiler.insertRow target plan batched row) := by
  refine counts_of_length (length_insertRow target plan batched row) ⟨?_, ?_⟩
  · rintro (_ | ⟨other, selects⟩ | _)
    exact ⟨selects, _, Except.ok.inj (reported.symm.trans other)⟩
  · rintro ⟨selects, column, key⟩
    exact .insert (key ▸ reported) selects

theorem counts_mergeRow {dialect : Dialect} {target : Target} {plan : MergePlan} {batched : Bool}
    {row : Nat} (chosen : compiler.dialect = some dialect)
    (reported : compiler.reportedKey configuration request = .ok plan.key) :
    Counts (compiler.AddsStatement configuration request (.merge extent))
      (mergeRow compiler.setting dialect target plan batched row) := by
  refine counts_of_length (length_mergeRow compiler.setting dialect target plan batched row)
    ⟨?_, ?_⟩
  · rintro (_ | _ | ⟨other, selects⟩)
    rw [chosen] at selects
    exact ⟨selects, _, Except.ok.inj (reported.symm.trans other)⟩
  · rintro ⟨selects, column, key⟩
    refine .merge (key ▸ reported) ?_
    rw [chosen]
    exact selects

/-- The one row that a batch may have under a setting for single statements. -/
theorem flatMap_range_rows {α : Type} (write : Nat → List α) {rows : Nat} (one : rows = 1) :
    (List.range rows).flatMap write = write 0 := by
  rw [one, List.range_one, List.flatMap_singleton]

theorem counts_of_compile (single : compiler.setting.allowsSeveralStatements = false)
    (compiled : compiler.compile configuration operation request = .ok statements) :
    Counts (compiler.AddsStatement configuration request operation) statements := by
  cases operation with
  | truncate =>
      obtain ⟨-, -, rfl⟩ := compile_truncate_eq_ok_iff.mp compiled
      exact counts_truncateStatements
  | insert extent =>
      obtain ⟨plan, planned, rfl⟩ := compile_insert_eq_ok_iff.mp compiled
      obtain ⟨-, checked, -, -, -, reported⟩ := planInsert_eq_ok_iff.mp planned
      have one := Extent.rows_eq_one single checked
      have unbatched : ¬(compiler.dialect = some .sqlServer ∧ 1 < extent.rows request) := by
        omega
      rw [insertStatements, if_neg unbatched, flatMap_range_rows _ one]
      exact counts_insertRow reported
  | update extent =>
      obtain ⟨plan, planned, rfl⟩ := compile_update_eq_ok_iff.mp compiled
      obtain ⟨-, checked, -⟩ := planUpdate_eq_ok_iff.mp planned
      rw [Extent.rows_eq_one single checked]
      refine .inl ⟨rfl, ?_⟩
      rintro ⟨⟩
  | merge extent =>
      obtain ⟨dialect, plan, chosen, planned, rfl⟩ := compile_merge_eq_ok_iff.mp compiled
      obtain ⟨-, checked, -, -, -, -, -, -, reported⟩ := planMerge_eq_ok_iff.mp planned
      rw [flatMap_range_rows _ (Extent.rows_eq_one single checked)]
      exact counts_mergeRow chosen reported
  | _ =>
      obtain ⟨statement, rfl, -⟩ := exists_statement_of_isPlain rfl compiled
      refine .inl ⟨rfl, ?_⟩
      rintro ⟨⟩

/--
Under a setting that allows one statement only a text has one terminator,
except where a key is read back by a statement of its own and where a
truncated table is deleted from: then it has two.
-/
theorem one_terminator_iff {text : String}
    (single : compiler.setting.allowsSeveralStatements = false)
    (accepted : compiler.text configuration operation request = .ok text) :
    ∃ statements, compiler.compile configuration operation request = .ok statements ∧
      text = (StatementText.ofWords ((Statement.allWrittenWords compiler.setting statements).map
        WrittenWord.spelling)).finished ∧
      ((Statement.allWrittenWords compiler.setting statements).count .terminator = 1 ↔
        ¬compiler.AddsStatement configuration request operation) ∧
      ((Statement.allWrittenWords compiler.setting statements).count .terminator = 2 ↔
        compiler.AddsStatement configuration request operation) := by
  obtain ⟨statements, compiled, rfl⟩ := text_eq_ok_iff.mp accepted
  refine ⟨statements, compiled, ?_, ?_⟩
  · rw [Statement.map_spelling_allWrittenWords, written]
  · rw [Statement.count_terminator_allWrittenWords]
    obtain ⟨length, added⟩ | ⟨length, added⟩ := counts_of_compile single compiled
    · simp [length, added]
    · simp [length, added]

/-- The compiler of a dialect for a database that executes one statement at a time. -/
def singleStatement (dialect : Dialect) : Compiler where
  dialect := some dialect
  setting := { dialect.setting with allowsSeveralStatements := false }

def generatedKey : Request where
  table := "Item"
  fields := [{ name := "Name" }]
  identityColumn := some (.identity "Id")

theorem one_terminator_iff_generatedKey :
    (singleStatement .postgreSql).setting.allowsSeveralStatements = false ∧
      (singleStatement .postgreSql).text .initial (.insert .oneRow) generatedKey =
        .ok ("INSERT INTO \"Item\" ( \"Name\" ) VALUES ( @Name ) " ++
          "RETURNING \"Id\" AS \"Result\" ;") ∧
      ∃ statements, (singleStatement .postgreSql).compile .initial (.insert .oneRow)
          generatedKey = .ok statements ∧
        ((Statement.allWrittenWords (singleStatement .postgreSql).setting statements).count
            .terminator = 1 ↔
          ¬(singleStatement .postgreSql).AddsStatement .initial generatedKey
            (.insert .oneRow)) := by
  have accepted : (singleStatement .postgreSql).text .initial (.insert .oneRow) generatedKey =
      .ok ("INSERT INTO \"Item\" ( \"Name\" ) VALUES ( @Name ) " ++
        "RETURNING \"Id\" AS \"Result\" ;") := by
    decide +kernel
  obtain ⟨statements, compiled, -, one, -⟩ := one_terminator_iff rfl accepted
  exact ⟨rfl, accepted, statements, compiled, one⟩

/-- SQL Server reads the key of the inserted row back by a second statement. -/
theorem not_one_terminator_generatedKey :
    (singleStatement .sqlServer).setting.allowsSeveralStatements = false ∧
      (singleStatement .sqlServer).text .initial (.insert .oneRow) generatedKey =
        .ok ("INSERT INTO [Item] ( [Name] ) VALUES ( @Name ) ; " ++
          "SELECT CONVERT(BIGINT, SCOPE_IDENTITY()) AS [Result] ;") ∧
      ∃ statements, (singleStatement .sqlServer).compile .initial (.insert .oneRow)
          generatedKey = .ok statements ∧
        (Statement.allWrittenWords (singleStatement .sqlServer).setting statements).count
          .terminator ≠ 1 := by
  have accepted : (singleStatement .sqlServer).text .initial (.insert .oneRow) generatedKey =
      .ok ("INSERT INTO [Item] ( [Name] ) VALUES ( @Name ) ; " ++
        "SELECT CONVERT(BIGINT, SCOPE_IDENTITY()) AS [Result] ;") := by
    decide +kernel
  have reported : (singleStatement .sqlServer).reportedKey .initial generatedKey =
      .ok (some (.identity "Id")) := rfl
  obtain ⟨statements, compiled, -⟩ := text_eq_ok_iff.mp accepted
  refine ⟨rfl, accepted, statements, compiled, ?_⟩
  rw [Statement.count_terminator_allWrittenWords]
  obtain ⟨-, unadded⟩ | ⟨length, -⟩ := counts_of_compile rfl compiled
  · exact absurd (.insert reported rfl) unadded
  · omega

end Compiler

end SqlCompiler
