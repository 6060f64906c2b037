import SqlCompiler.Statement.Basic
import SqlCompiler.Statement.Clause
import SqlCompiler.StatementText

/-!
# How statements are spelled

Every statement is a list of words that ends with the terminator.  The words
stand in a fixed order: the verb, the target with its hints, the condition or
the values, the order, the row window, the reported key and the terminator.
-/

namespace SqlCompiler

def terminator : String := ";"

namespace Target

def words (target : Target) (setting : Setting) : List String :=
  setting.quote target.table :: Clause.hints target.hints

end Target

namespace Selection

/-- The expression under its name, or the list of the columns. -/
def words (selection : Selection) (setting : Setting) : List String :=
  match selection with
  | .expression text name => Clause.named setting text name
  | .fields listed => [Clause.columnList setting listed]

end Selection

namespace RowWindow

def words : RowWindow → List String
  | .all => []
  | .limit rows => Clause.limit rows
  | .limitOffset rows offset => Clause.limitOffset rows offset
  | .offsetLimit offset rows => Clause.offsetLimit offset rows

end RowWindow

namespace KeyExpression

def text (expression : KeyExpression) (setting : Setting) : String :=
  match expression with
  | .parameter column row => setting.parameter column row
  | .scopeIdentity type => "CONVERT(" ++ type ++ ", SCOPE_IDENTITY())"
  | .generated function => function
  | .parameterElseGenerated column row function =>
      "COALESCE(" ++ setting.parameter column row ++ ", " ++ function ++ ")"
  | .inserted column => "INSERTED." ++ setting.quote column
  | .returned column => setting.quote column

end KeyExpression

namespace KeyReport

/-- The key under the name `Result`, and inside a batch the row under the name `Index`. -/
def text (report : KeyReport) (setting : Setting) : String :=
  let result := report.expression.text setting ++ " AS " ++ setting.quote "Result"
  match report.row with
  | some row => result ++ ", " ++ toString row ++ " AS " ++ setting.quote "Index"
  | none => result

def clause (keyword : String) (report : Option KeyReport) (setting : Setting) : List String :=
  match report with
  | some report => [keyword, report.text setting]
  | none => []

end KeyReport

namespace UpdateCondition

def words (condition : UpdateCondition) (setting : Setting) (row : Nat) : List String :=
  match condition with
  | .filter tree => Clause.condition setting (some tree) row
  | .qualifiers matched => Clause.equalities setting matched row

end UpdateCondition

namespace Statement

/-- The tuple of the placeholders of a row and the number of the row. -/
def rowTuple (setting : Setting) (fields : List Field) (row : Nat) : String :=
  "( " ++ Clause.parameterList setting fields row ++ ", " ++ toString row ++ " )"

/-- The words of an insert of one row, up to its values. -/
def insertWords (setting : Setting) (target : Target) (fields : List Field) (row : Nat) :
    List String :=
  ["INSERT", "INTO"] ++ target.words setting ++
    ["(", Clause.columnList setting fields, ")", "VALUES",
      "(", Clause.parameterList setting fields row, ")"]

/-- The words of an insert of several rows that are numbered and then sorted. -/
def insertRowsWords (setting : Setting) (target : Target) (fields : List Field) (rows : Nat)
    (report : Option KeyReport) : List String :=
  let columns := Clause.columnList setting fields
  let rowNumber := setting.quote "__RowIndex"
  ["INSERT", "INTO"] ++ target.words setting ++ ["(", columns, ")"] ++
    KeyReport.clause "OUTPUT" report setting ++
    ["SELECT", columns, "FROM", "(", "VALUES",
      Clause.commaList ((List.range rows).map (rowTuple setting fields)), ")",
      "AS S ( " ++ columns ++ ", " ++ rowNumber ++ " )", "ORDER BY S." ++ rowNumber]

/-- The words of a page that is cut out by numbering the rows. -/
def selectPageWords (setting : Setting) (fields : List Field) (target : Target)
    (filter : Option Filter) (order : List SortKey) (page : Request.Page) : List String :=
  let columns := Clause.columnList setting fields
  let rowNumber := setting.quote "RowNumber"
  ["WITH", "CTE", "AS", "(", "SELECT", "ROW_NUMBER()", "OVER", "("] ++
    Clause.order setting order ++
    [")", "AS " ++ rowNumber ++ ",", columns, "FROM"] ++ target.words setting ++
    Clause.condition setting filter 0 ++
    [")", "SELECT", columns, "FROM", "CTE",
      "WHERE (" ++ rowNumber ++ " BETWEEN " ++ toString (page.offset + 1) ++ " AND " ++
        toString page.last ++ ")"] ++
    Clause.order setting order

/-- The words of a merge of one row from its placeholders. -/
def mergeWords (setting : Setting) (target : Target) (parts : MergeFields) (row : Nat)
    (report : Option KeyReport) : List String :=
  ["MERGE"] ++ target.words setting ++
    ["AS T", "USING", "(", "SELECT", Clause.namedParameterList setting parts.fields row, ")",
      "AS S", "ON", "(",
      Clause.conjunctionList (parts.qualifiers.map (Clause.equationBetween setting "T" "S")), ")",
      "WHEN", "NOT", "MATCHED", "THEN", "INSERT", "(",
      Clause.columnList setting parts.insertable, ")", "VALUES", "(",
      Clause.columnsOf setting "S" parts.insertable, ")"] ++
    (if parts.updatable.isEmpty then []
    else
      ["WHEN", "MATCHED", "THEN", "UPDATE", "SET",
        Clause.assignmentsBetween setting "T" "S" parts.updatable]) ++
    KeyReport.clause "OUTPUT" report setting

/-- A column set to the value that could not be inserted. -/
def excludedEquation (setting : Setting) (excluded : String) (field : Field) : String :=
  field.quoted setting ++ " = " ++ excluded ++ "." ++ field.quoted setting

def duplicateEquation (setting : Setting) (field : Field) : String :=
  field.quoted setting ++ " = VALUES(" ++ field.quoted setting ++ ")"

/-- What happens to a row that exists; the second form needs at least one assignment. -/
def conflictWords (setting : Setting) (parts : MergeFields) : ConflictRule → List String
  | .onConflict excluded =>
      ["ON CONFLICT", "(", Clause.columnList setting parts.qualifiers, ")"] ++
        if parts.updatable.isEmpty then ["DO NOTHING"]
        else
          ["DO UPDATE", "SET",
            Clause.commaList (parts.updatable.map (excludedEquation setting excluded))]
  | .onDuplicateKey =>
      let assigned := if parts.updatable.isEmpty then parts.qualifiers else parts.updatable
      ["ON DUPLICATE KEY UPDATE", Clause.commaList (assigned.map (duplicateEquation setting))]

/-- The words of a statement in front of its terminator. -/
def body (setting : Setting) : Statement → List String
  | .select selection target filter order top window =>
      ["SELECT"] ++ (top.map Clause.top).getD [] ++ selection.words setting ++ ["FROM"] ++
        target.words setting ++ Clause.condition setting filter 0 ++
        Clause.order setting order ++ window.words
  | .selectPage fields target filter order page =>
      selectPageWords setting fields target filter order page
  | .selectKey report => KeyReport.clause "SELECT" (some report) setting
  | .delete target filter =>
      ["DELETE", "FROM"] ++ target.words setting ++ Clause.condition setting filter 0
  | .truncate table => ["TRUNCATE", "TABLE", setting.quote table]
  | .vacuum => ["VACUUM"]
  | .insert target fields row report =>
      insertWords setting target fields row ++ KeyReport.clause "RETURNING" report setting
  | .insertRows target fields rows report => insertRowsWords setting target fields rows report
  | .update target fields row condition =>
      ["UPDATE"] ++ target.words setting ++
        ["SET", Clause.assignmentList setting fields row] ++ condition.words setting row
  | .merge target parts row report => mergeWords setting target parts row report
  | .upsert target parts row rule report =>
      ["INSERT", "INTO"] ++ target.words setting ++
        ["(", Clause.columnList setting parts.fields, ")", "VALUES",
          "(", Clause.parameterList setting parts.fields row, ")"] ++
        conflictWords setting parts rule ++ KeyReport.clause "RETURNING" report setting

def words (setting : Setting) (statement : Statement) : List String :=
  statement.body setting ++ [terminator]

def allWords (setting : Setting) (statements : List Statement) : List String :=
  statements.flatMap (words setting)

@[simp]
theorem allWords_singleton (setting : Setting) (statement : Statement) :
    allWords setting [statement] = statement.words setting :=
  List.flatMap_singleton _ _

@[simp]
theorem allWords_append (setting : Setting) (first second : List Statement) :
    allWords setting (first ++ second) = allWords setting first ++ allWords setting second := by
  simp [allWords]

end Statement

end SqlCompiler
