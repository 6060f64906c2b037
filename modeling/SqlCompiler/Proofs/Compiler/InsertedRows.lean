import Mathlib.Data.List.Nodup
import SqlCompiler.Proofs.Compiler.Verdicts

/-!
# The rows that a batch inserts

SQL Server inserts the rows of a batch by one statement, out of a list of
tuples that are numbered, named and selected from.  The other dialects have one
statement for each row.  Here both texts are taken apart into their lists of
columns and of values, which stand in the texts separately from each other, and
the lists are compared: the tuples are the value lists of the single
statements, each with the number of its row behind it, and all lists of columns
name the same columns in the same order.
-/

namespace SqlCompiler

namespace Clause

theorem commaList_concat {texts : List String} (nonempty : texts ≠ []) (last : String) :
    commaList (texts ++ [last]) = commaList texts ++ ", " ++ last := by
  rw [commaList, String.intercalate_append_of_ne_nil nonempty (List.cons_ne_nil last []),
    String.intercalate_singleton, commaList]

end Clause

/-- An insert of one row: its columns, and the values for them. -/
structure RowInsert where
  columns : List String
  values : List String

namespace RowInsert

/-- The words of the insert up to its values. -/
def words (insert : RowInsert) (target : List String) : List String :=
  ["INSERT", "INTO"] ++ target ++
    ["(", Clause.commaList insert.columns, ")", "VALUES",
      "(", Clause.commaList insert.values, ")"]

/-- What is stored in which column. -/
def stored (insert : RowInsert) : List (String × Option String) :=
  insert.columns.zip (insert.values.map some)

end RowInsert

/-- An insert of the rows that are selected from a list of tuples under names for their places. -/
structure TupleInsert where
  columns : List String
  selected : List String
  tuples : List (List String)
  names : List String
  sortedBy : String

namespace TupleInsert

def words (insert : TupleInsert) (target output : List String) : List String :=
  ["INSERT", "INTO"] ++ target ++ ["(", Clause.commaList insert.columns, ")"] ++ output ++
    ["SELECT", Clause.commaList insert.selected, "FROM", "(", "VALUES",
      Clause.commaList (insert.tuples.map fun tuple => "( " ++ Clause.commaList tuple ++ " )"),
      ")", "AS S ( " ++ Clause.commaList insert.names ++ " )",
      "ORDER BY S." ++ insert.sortedBy]

/-- What is stored of a tuple in which column; the selected places are found by their names. -/
def stored (insert : TupleInsert) (tuple : List String) : List (String × Option String) :=
  insert.columns.zip (insert.selected.map fun name => tuple[insert.names.idxOf name]?)

end TupleInsert

/--
Selecting by names that differ finds the values in front, whatever names and
values stand behind them.
-/
theorem map_getElem?_idxOf_append {columns values others : List String} (rest : List String)
    (distinct : (columns ++ others).Nodup) (aligned : columns.length = values.length) :
    (columns.map fun name => (values ++ rest)[(columns ++ others).idxOf name]?) =
      values.map some := by
  refine List.ext_getElem (by simpa using aligned) fun place inColumns inValues => ?_
  rw [List.length_map] at inColumns inValues
  have found : (columns ++ others).idxOf columns[place] = place := by
    have within : place < (columns ++ others).length := by
      rw [List.length_append]
      omega
    have at_place := distinct.idxOf_getElem place within
    rwa [List.getElem_append_left inColumns] at at_place
  rw [List.getElem_map, List.getElem_map, found, List.getElem?_append_left inValues,
    List.getElem?_eq_getElem inValues]

/-- The insert of several rows and those of single rows store the same, and in the same order. -/
structure RowsAligned (setting : Setting) (fields : List Field) (rows : Nat)
    (together : TupleInsert) (single : Nat → RowInsert) : Prop where
  nonempty : together.columns ≠ []
  columns : together.columns = fields.map (·.quoted setting)
  sameColumns : ∀ row < rows, (single row).columns = together.columns
  values : ∀ row < rows, (single row).values = fields.map (·.parameter setting row)
  count : together.tuples.length = rows
  tuples : ∀ row < rows, together.tuples[row]? = some ((single row).values ++ [toString row])
  selected : together.selected = together.columns
  names : together.names = together.columns ++ [together.sortedBy]
  number : together.sortedBy = setting.quote "__RowIndex"
  stored : together.names.Nodup → ∀ row < rows, ∀ tuple, together.tuples[row]? = some tuple →
    together.stored tuple = (single row).stored

namespace Field

def rowInsert (fields : List Field) (setting : Setting) (row : Nat) : RowInsert where
  columns := fields.map (·.quoted setting)
  values := fields.map (·.parameter setting row)

def tupleInsert (fields : List Field) (setting : Setting) (rows : Nat) : TupleInsert where
  columns := fields.map (·.quoted setting)
  selected := fields.map (·.quoted setting)
  tuples := (List.range rows).map fun row =>
    fields.map (·.parameter setting row) ++ [toString row]
  names := fields.map (·.quoted setting) ++ [setting.quote "__RowIndex"]
  sortedBy := setting.quote "__RowIndex"

variable {fields : List Field}

theorem getElem?_tuples_tupleInsert (setting : Setting) {row rows : Nat} (inside : row < rows) :
    (tupleInsert fields setting rows).tuples[row]? =
      some ((rowInsert fields setting row).values ++ [toString row]) := by
  simp [tupleInsert, rowInsert, inside]

theorem rowsAligned (nonempty : fields ≠ []) (setting : Setting) (rows : Nat) :
    RowsAligned setting fields rows (tupleInsert fields setting rows)
      (rowInsert fields setting) where
  nonempty := by simpa [tupleInsert] using nonempty
  columns := rfl
  sameColumns _ _ := rfl
  values _ _ := rfl
  count := by simp [tupleInsert]
  tuples _ inside := getElem?_tuples_tupleInsert setting inside
  selected := rfl
  names := rfl
  number := rfl
  stored := by
    intro distinct row inside tuple found
    rw [getElem?_tuples_tupleInsert setting inside] at found
    obtain rfl := Option.some.inj found
    have aligned : (tupleInsert fields setting rows).columns.length =
        (rowInsert fields setting row).values.length := by
      simp [tupleInsert, rowInsert]
    have same := map_getElem?_idxOf_append [toString row] distinct aligned
    exact congrArg ((tupleInsert fields setting rows).columns.zip ·) same

/-- The words of an insert of several rows, with all its lists apart from each other. -/
theorem words_tupleInsert (nonempty : fields ≠ []) (setting : Setting) (target : Target)
    (rows : Nat) (report : Option KeyReport) :
    Statement.words setting (.insertRows target fields rows report) =
      (tupleInsert fields setting rows).words (target.words setting)
        (KeyReport.clause "OUTPUT" report setting) ++ [terminator] := by
  have names : Clause.commaList (fields.map (·.quoted setting) ++ [setting.quote "__RowIndex"]) =
      Clause.columnList setting fields ++ ", " ++ setting.quote "__RowIndex" :=
    Clause.commaList_concat (by simpa using nonempty) _
  have tuple (row : Nat) :
      "( " ++ Clause.commaList (fields.map (·.parameter setting row) ++ [toString row]) ++ " )" =
        Statement.rowTuple setting fields row := by
    rw [Clause.commaList_concat (by simpa using nonempty), Statement.rowTuple,
      Clause.parameterList]
    simp only [String.append_assoc]
  simp only [Statement.words, Statement.body, Statement.insertRowsWords, TupleInsert.words,
    tupleInsert, names, List.map_map, Function.comp_def, tuple]
  simp only [Clause.columnList, String.append_assoc]

end Field

namespace Compiler

variable {setting : Setting} {keyPolicy : Option KeyPolicy} {configuration : Configuration}
  {request : Request} {accepting : Dialect} {text : String}

/-- The words of a row that is inserted by itself, with what stands behind it. -/
theorem allWords_insertRow (compiler : Compiler) (target : Target) (plan : InsertPlan)
    (batched : Bool) (row : Nat) :
    Statement.allWords compiler.setting (compiler.insertRow target plan batched row) =
      (Field.rowInsert plan.fields compiler.setting row).words (target.words compiler.setting) ++
        (compiler.insertTail plan.key row batched).words compiler.setting := by
  simp [insertRow, Statement.allWords, Statement.words, Statement.body, Statement.insertWords,
    KeyTail.words, RowInsert.words, Field.rowInsert, Clause.columnList, Clause.parameterList]

/-- The words of the rows of a batch that are inserted one by one. -/
theorem allWords_insertStatements_of_other {dialect : Dialect} (other : dialect ≠ .sqlServer)
    {target : Target} {plan : InsertPlan} {rows : Nat} (several : 2 ≤ rows) :
    Statement.allWords setting
        ((forDialect setting keyPolicy dialect).insertStatements target plan rows) =
      (List.range rows).flatMap fun row =>
        (Field.rowInsert plan.fields setting row).words (target.words setting) ++
          ((forDialect setting keyPolicy dialect).insertTail plan.key row true).words
            setting := by
  have apart : ¬((forDialect setting keyPolicy dialect).dialect = some .sqlServer ∧ 1 < rows) :=
    fun both => other (Option.some.inj both.1)
  have batched : decide (1 < rows) = true := decide_eq_true several
  rw [insertStatements, if_neg apart, Statement.allWords, List.flatMap_assoc, batched]
  exact List.flatMap_congr fun row _ =>
    allWords_insertRow (forDialect setting keyPolicy dialect) target plan true row

/--
If any dialect accepts a batch of several rows, then all do; the one statement
of SQL Server and the statements of another dialect insert the same rows.
-/
theorem batches_insert_same_rows (several : 2 ≤ request.rows)
    (accepted : (forDialect setting keyPolicy accepting).text configuration (.insert .batch)
      request = .ok text)
    {separate : Dialect} (other : separate ≠ .sqlServer) :
    ∃ plan together single,
      (forDialect setting keyPolicy separate).planInsert configuration request .batch = .ok plan ∧
      (forDialect setting keyPolicy .sqlServer).text configuration (.insert .batch) request =
        .ok (StatementText.ofWords (together.words (request.target.words setting)
          (KeyReport.clause "OUTPUT"
            (plan.key.map fun key => report false 0 (.inserted key.name)) setting) ++
          [terminator])).finished ∧
      (forDialect setting keyPolicy separate).text configuration (.insert .batch) request =
        .ok (StatementText.ofWords ((List.range request.rows).flatMap fun row =>
          (single row).words (request.target.words setting) ++
            ((forDialect setting keyPolicy separate).insertTail plan.key row true).words
              setting)).finished ∧
      RowsAligned setting plan.fields request.rows together single := by
  obtain ⟨statements, compiled, -⟩ := text_eq_ok_iff.mp accepted
  obtain ⟨plan, planned, -⟩ := compile_insert_eq_ok_iff.mp compiled
  obtain ⟨-, -, -, -, kept, -⟩ := planInsert_eq_ok_iff.mp planned
  obtain ⟨-, nonempty⟩ := Request.insertableFields_eq_ok_iff.mp kept
  refine ⟨plan, Field.tupleInsert plan.fields setting request.rows,
    Field.rowInsert plan.fields setting, planned, ?_, ?_,
    Field.rowsAligned nonempty setting request.rows⟩
  · refine text_eq_ok_iff.mpr ⟨_, compile_insert_eq_ok_iff.mpr ⟨plan, planned, rfl⟩, ?_⟩
    rw [insertStatements, if_pos ⟨rfl, several⟩, written, insertBatch,
      Statement.allWords_singleton]
    exact congrArg (StatementText.finished ∘ StatementText.ofWords)
      (Field.words_tupleInsert nonempty setting request.target request.rows _).symm
  · refine text_eq_ok_iff.mpr ⟨_, compile_insert_eq_ok_iff.mpr ⟨plan, planned, rfl⟩, ?_⟩
    exact congrArg (StatementText.finished ∘ StatementText.ofWords)
      (allWords_insertStatements_of_other other several).symm

def twoPersons : Request where
  table := "Person"
  fields := [{ name := "Name" }, { name := "Age" }]
  batchSize := 2

def twoPersonsText : String :=
  "INSERT INTO [Person] ( [Name], [Age] ) SELECT [Name], [Age] FROM ( VALUES " ++
    "( @Name, @Age, 0 ), ( @Name_1, @Age_1, 1 ) ) AS S ( [Name], [Age], [__RowIndex] ) " ++
    "ORDER BY S.[__RowIndex] ;"

/-- Two rows, which SQL Server inserts by one statement and SQLite by two. -/
theorem batches_insert_same_rows_twoPersons :
    2 ≤ twoPersons.rows ∧ Dialect.sqlite ≠ .sqlServer ∧
      (forDialect .sqlServer none .sqlServer).text .initial (.insert .batch) twoPersons =
        .ok twoPersonsText ∧
      ∃ (plan : InsertPlan) (together : TupleInsert) (single : Nat → RowInsert),
        (forDialect .sqlServer none .sqlite).text .initial (.insert .batch) twoPersons =
          .ok (StatementText.ofWords ((List.range 2).flatMap fun row =>
            (single row).words (twoPersons.target.words .sqlServer) ++
              ((forDialect .sqlServer none .sqlite).insertTail plan.key row true).words
                .sqlServer)).finished ∧
        RowsAligned .sqlServer plan.fields 2 together single := by
  have several : 2 ≤ twoPersons.rows := by decide
  have accepted : (forDialect .sqlServer none .sqlServer).text .initial (.insert .batch)
      twoPersons = .ok twoPersonsText := by
    decide +kernel
  have separate : Dialect.sqlite ≠ .sqlServer := by decide
  obtain ⟨plan, together, single, -, -, spelled, aligned⟩ :=
    batches_insert_same_rows several accepted separate
  exact ⟨several, separate, accepted, plan, together, single, spelled, aligned⟩

end Compiler

end SqlCompiler
