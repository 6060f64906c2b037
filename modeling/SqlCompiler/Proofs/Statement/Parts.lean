import Mathlib.Data.List.Basic
import SqlCompiler.Statement.Words

/-!
# Statements with their lists in sight

Between its keywords a statement has lists of columns, of values and of
assignments, and it may report a key.  In the text these are words like all
others.  Here a word says what it is: a keyword, a list of fields in some form,
a reported key, or a text that is not looked into.  The form of a list says how
each of its fields is written and which roles they play.  Spelling the parts of
a statement gives its words, so what is said about the lists of the parts is
said about the lists in the text.
-/

namespace SqlCompiler

/-- What the fields of a list are in a statement that writes rows. -/
inductive ListRole where
  | supplied
  | matched
  | inserted
  | value
  | assigned
  deriving DecidableEq, Repr

/-- How the fields of a list are written, and what for. -/
inductive ListForm where
  /-- The columns in which a row is inserted that is supplied by its values. -/
  | newColumns
  /-- The columns in which a row of the source is inserted. -/
  | insertedColumns
  /-- The columns of the source, as the values that are inserted. -/
  | sourceColumns
  /-- The columns by which a row that exists is found. -/
  | conflictColumns
  /-- Columns of the target that equal those of the source if the row is found. -/
  | matchEquations
  | placeholders (row : Nat)
  /-- Placeholders under the names of their columns, which make a row of the source. -/
  | namedPlaceholders (row : Nat)
  /-- Columns that are assigned their placeholders. -/
  | placeholderEquations (row : Nat)
  /-- Columns of the target that are assigned those of the source. -/
  | sourceEquations
  /-- Columns that are assigned what could not be inserted, which has a name. -/
  | excludedEquations (excluded : String)
  | valuesEquations
  deriving DecidableEq, Repr

namespace ListForm

def roles : ListForm → List ListRole
  | .newColumns => [.supplied, .inserted]
  | .insertedColumns => [.inserted]
  | .sourceColumns | .placeholders _ => [.value]
  | .conflictColumns | .matchEquations => [.matched]
  | .namedPlaceholders _ => [.supplied]
  | .placeholderEquations _ | .sourceEquations | .excludedEquations _ | .valuesEquations =>
      [.assigned]

def separator : ListForm → String
  | .matchEquations => " AND "
  | _ => ", "

/-- How a field of the list is written. -/
def entry (setting : Setting) (form : ListForm) (field : Field) : String :=
  let column := setting.quote field.name
  match form with
  | .newColumns | .insertedColumns | .conflictColumns => column
  | .sourceColumns => "S." ++ column
  | .matchEquations | .sourceEquations => "T." ++ column ++ " = S." ++ column
  | .placeholders row => setting.parameter field.name row
  | .namedPlaceholders row => setting.parameter field.name row ++ " AS " ++ column
  | .placeholderEquations row => column ++ " = " ++ setting.parameter field.name row
  | .excludedEquations excluded => column ++ " = " ++ excluded ++ "." ++ column
  | .valuesEquations => column ++ " = VALUES(" ++ column ++ ")"

def text (setting : Setting) (form : ListForm) (fields : List Field) : String :=
  form.separator.intercalate (fields.map (form.entry setting))

section Clauses

variable (setting : Setting) (row : Nat) (fields : List Field)

@[simp]
theorem text_newColumns : newColumns.text setting fields = Clause.columnList setting fields :=
  rfl

@[simp]
theorem text_insertedColumns :
    insertedColumns.text setting fields = Clause.columnList setting fields :=
  rfl

@[simp]
theorem text_conflictColumns :
    conflictColumns.text setting fields = Clause.columnList setting fields :=
  rfl

@[simp]
theorem text_sourceColumns :
    sourceColumns.text setting fields = Clause.columnsOf setting "S" fields :=
  rfl

@[simp]
theorem text_placeholders :
    (placeholders row).text setting fields = Clause.parameterList setting fields row :=
  rfl

@[simp]
theorem text_namedPlaceholders :
    (namedPlaceholders row).text setting fields = Clause.namedParameterList setting fields row :=
  rfl

@[simp]
theorem text_placeholderEquations :
    (placeholderEquations row).text setting fields = Clause.assignmentList setting fields row :=
  rfl

theorem entry_sourceEquations :
    sourceEquations.entry setting = Clause.equationBetween setting "T" "S" := by
  funext field
  apply String.toList_injective
  simp [entry, Clause.equationBetween, Field.quoted]

@[simp]
theorem text_matchEquations :
    matchEquations.text setting fields =
      Clause.conjunctionList (fields.map (Clause.equationBetween setting "T" "S")) :=
  congrArg (fun entry => Clause.conjunctionList (fields.map entry)) (entry_sourceEquations setting)

@[simp]
theorem text_sourceEquations :
    sourceEquations.text setting fields = Clause.assignmentsBetween setting "T" "S" fields :=
  congrArg (fun entry => Clause.commaList (fields.map entry)) (entry_sourceEquations setting)

@[simp]
theorem text_excludedEquations (excluded : String) :
    (excludedEquations excluded).text setting fields =
      Clause.commaList (fields.map (Statement.excludedEquation setting excluded)) :=
  rfl

@[simp]
theorem text_valuesEquations :
    valuesEquations.text setting fields =
      Clause.commaList (fields.map (Statement.duplicateEquation setting)) :=
  rfl

end Clauses

end ListForm

/-- A word of a statement; a list has an entry for each of its fields. -/
inductive StatementPart where
  | keyword (word : String)
  | plain (text : String)
  | list (form : ListForm) (fields : List Field)
  | key (report : KeyReport)

namespace StatementPart

def spelling (setting : Setting) : StatementPart → String
  | .keyword word => word
  | .plain text => text
  | .list form fields => form.text setting fields
  | .key report => report.text setting

def list? : StatementPart → Option (ListForm × List Field)
  | .list form fields => some (form, fields)
  | _ => none

def keyword? : StatementPart → Option String
  | .keyword word => some word
  | _ => none

def report? : StatementPart → Option KeyReport
  | .key report => some report
  | _ => none

end StatementPart

namespace Parts

def fixed (words : List String) : List StatementPart :=
  words.map .keyword

def plain (words : List String) : List StatementPart :=
  words.map .plain

/-- A reported key behind a keyword, if there is one. -/
def reported (keyword : String) (report : Option KeyReport) : List StatementPart :=
  match report with
  | some report => [.keyword keyword, .key report]
  | none => []

def spell (setting : Setting) (parts : List StatementPart) : List String :=
  parts.map (StatementPart.spelling setting)

def lists (parts : List StatementPart) : List (ListForm × List Field) :=
  parts.filterMap StatementPart.list?

/-- The fields of the lists that play a role. -/
def columns (role : ListRole) (parts : List StatementPart) : List Field :=
  (lists parts).flatMap fun list => if role ∈ list.1.roles then list.2 else []

def keywords (parts : List StatementPart) : List String :=
  parts.filterMap StatementPart.keyword?

def reports (parts : List StatementPart) : List KeyReport :=
  parts.filterMap StatementPart.report?

section Append

variable (first second : List StatementPart)

@[simp]
theorem spell_append (setting : Setting) :
    spell setting (first ++ second) = spell setting first ++ spell setting second := by
  simp [spell]

@[simp]
theorem lists_append : lists (first ++ second) = lists first ++ lists second := by
  simp [lists]

@[simp]
theorem keywords_append : keywords (first ++ second) = keywords first ++ keywords second := by
  simp [keywords]

@[simp]
theorem reports_append : reports (first ++ second) = reports first ++ reports second := by
  simp [reports]

end Append

section List

variable (form : ListForm) (fields : List Field) (rest : List StatementPart)

@[simp]
theorem spell_list_cons (setting : Setting) :
    spell setting (.list form fields :: rest) = form.text setting fields :: spell setting rest :=
  rfl

@[simp]
theorem lists_list_cons : lists (.list form fields :: rest) = (form, fields) :: lists rest :=
  rfl

@[simp]
theorem keywords_list_cons : keywords (.list form fields :: rest) = keywords rest :=
  rfl

@[simp]
theorem reports_list_cons : reports (.list form fields :: rest) = reports rest :=
  rfl

end List

section Nil

@[simp]
theorem spell_nil (setting : Setting) : spell setting [] = [] :=
  rfl

@[simp]
theorem lists_nil : lists [] = [] :=
  rfl

@[simp]
theorem keywords_nil : keywords [] = [] :=
  rfl

@[simp]
theorem reports_nil : reports [] = [] :=
  rfl

end Nil

section FixedWords

variable (words : List String)

@[simp]
theorem spell_fixed (setting : Setting) : spell setting (fixed words) = words := by
  simp [spell, fixed, Function.comp_def, StatementPart.spelling]

@[simp]
theorem lists_fixed : lists (fixed words) = [] := by
  simp [lists, fixed, List.filterMap_map, Function.comp_def, StatementPart.list?]

@[simp]
theorem keywords_fixed : keywords (fixed words) = words := by
  simp [keywords, fixed, List.filterMap_map, Function.comp_def, StatementPart.keyword?]

@[simp]
theorem reports_fixed : reports (fixed words) = [] := by
  simp [reports, fixed, List.filterMap_map, Function.comp_def, StatementPart.report?]

@[simp]
theorem spell_plain (setting : Setting) : spell setting (plain words) = words := by
  simp [spell, plain, Function.comp_def, StatementPart.spelling]

@[simp]
theorem lists_plain : lists (plain words) = [] := by
  simp [lists, plain, List.filterMap_map, Function.comp_def, StatementPart.list?]

@[simp]
theorem keywords_plain : keywords (plain words) = [] := by
  simp [keywords, plain, List.filterMap_map, Function.comp_def, StatementPart.keyword?]

@[simp]
theorem reports_plain : reports (plain words) = [] := by
  simp [reports, plain, List.filterMap_map, Function.comp_def, StatementPart.report?]

end FixedWords

section Reported

variable (keyword : String) (report : Option KeyReport)

@[simp]
theorem spell_reported (setting : Setting) :
    spell setting (reported keyword report) = KeyReport.clause keyword report setting := by
  cases report <;> rfl

@[simp]
theorem lists_reported : lists (reported keyword report) = [] := by
  cases report <;> rfl

@[simp]
theorem keywords_reported :
    keywords (reported keyword report) = report.toList.map fun _ => keyword := by
  cases report <;> rfl

@[simp]
theorem reports_reported : reports (reported keyword report) = report.toList := by
  cases report <;> rfl

end Reported

end Parts

namespace Statement

open Parts

/-- The list of the columns of new rows, and of their values. -/
def valuesParts (fields : List Field) (row : Nat) : List StatementPart :=
  fixed ["("] ++ [.list .newColumns fields] ++ fixed [")", "VALUES", "("] ++
    [.list (.placeholders row) fields] ++ fixed [")"]

/-- What happens to a row that exists. -/
def conflictParts (parts : MergeFields) : ConflictRule → List StatementPart
  | .onConflict excluded =>
      fixed ["ON CONFLICT", "("] ++ [.list .conflictColumns parts.qualifiers] ++ fixed [")"] ++
        if parts.updatable.isEmpty then fixed ["DO NOTHING"]
        else
          fixed ["DO UPDATE", "SET"] ++ [.list (.excludedEquations excluded) parts.updatable]
  | .onDuplicateKey =>
      fixed ["ON DUPLICATE KEY UPDATE"] ++
        [.list .valuesEquations
          (if parts.updatable.isEmpty then parts.qualifiers else parts.updatable)]

def insertParts (setting : Setting) (target : Target) (fields : List Field) (row : Nat)
    (report : Option KeyReport) : List StatementPart :=
  fixed ["INSERT", "INTO"] ++ plain (target.words setting) ++ valuesParts fields row ++
    reported "RETURNING" report

def updateParts (setting : Setting) (target : Target) (fields : List Field) (row : Nat)
    (condition : UpdateCondition) : List StatementPart :=
  fixed ["UPDATE"] ++ plain (target.words setting) ++ fixed ["SET"] ++
    [.list (.placeholderEquations row) fields] ++ plain (condition.words setting row)

def mergeParts (setting : Setting) (target : Target) (lists : MergeFields) (row : Nat)
    (report : Option KeyReport) : List StatementPart :=
  fixed ["MERGE"] ++ plain (target.words setting) ++ fixed ["AS T", "USING", "(", "SELECT"] ++
    [.list (.namedPlaceholders row) lists.fields] ++ fixed [")", "AS S", "ON", "("] ++
    [.list .matchEquations lists.qualifiers] ++
    fixed [")", "WHEN", "NOT", "MATCHED", "THEN", "INSERT", "("] ++
    [.list .insertedColumns lists.insertable] ++ fixed [")", "VALUES", "("] ++
    [.list .sourceColumns lists.insertable] ++ fixed [")"] ++
    (if lists.updatable.isEmpty then []
    else
      fixed ["WHEN", "MATCHED", "THEN", "UPDATE", "SET"] ++
        [.list .sourceEquations lists.updatable]) ++
    reported "OUTPUT" report

/-- An insert that says what happens to a row that exists. -/
def upsertParts (setting : Setting) (target : Target) (lists : MergeFields) (row : Nat)
    (rule : ConflictRule) (report : Option KeyReport) : List StatementPart :=
  fixed ["INSERT", "INTO"] ++ plain (target.words setting) ++ valuesParts lists.fields row ++
    conflictParts lists rule ++ reported "RETURNING" report

/-- The words of a statement in front of its terminator, each with what it is. -/
def bodyParts (setting : Setting) : Statement → List StatementPart
  | .selectKey report => reported "SELECT" (some report)
  | .insert target fields row report => insertParts setting target fields row report
  | .update target fields row condition => updateParts setting target fields row condition
  | .merge target lists row report => mergeParts setting target lists row report
  | .upsert target lists row rule report => upsertParts setting target lists row rule report
  | statement => plain (statement.body setting)

def parts (setting : Setting) (statement : Statement) : List StatementPart :=
  statement.bodyParts setting ++ fixed [terminator]

section Parts

variable (setting : Setting) (target : Target) (fields : List Field) (lists : MergeFields)
  (row : Nat) (report : Option KeyReport)

theorem parts_selectKey (report : KeyReport) :
    (selectKey report).parts setting =
      reported "SELECT" (some report) ++ fixed [terminator] :=
  rfl

theorem parts_insert :
    (insert target fields row report).parts setting =
      insertParts setting target fields row report ++ fixed [terminator] :=
  rfl

theorem parts_update (condition : UpdateCondition) :
    (update target fields row condition).parts setting =
      updateParts setting target fields row condition ++ fixed [terminator] :=
  rfl

theorem parts_merge :
    (merge target lists row report).parts setting =
      mergeParts setting target lists row report ++ fixed [terminator] :=
  rfl

theorem parts_upsert (rule : ConflictRule) :
    (upsert target lists row rule report).parts setting =
      upsertParts setting target lists row rule report ++ fixed [terminator] :=
  rfl

end Parts

theorem spell_conflictParts (setting : Setting) (parts : MergeFields) (rule : ConflictRule) :
    spell setting (conflictParts parts rule) = conflictWords setting parts rule := by
  cases rule with
  | onConflict excluded =>
      cases nothing : parts.updatable.isEmpty <;> simp [conflictParts, conflictWords, nothing]
  | onDuplicateKey => simp [conflictParts, conflictWords]

section Spelling

variable (setting : Setting) (target : Target) (row : Nat) (report : Option KeyReport)

theorem spell_insertParts (fields : List Field) :
    spell setting (insertParts setting target fields row report) =
      (insert target fields row report).body setting := by
  simp [insertParts, valuesParts, Statement.body, insertWords]

theorem spell_updateParts (fields : List Field) (condition : UpdateCondition) :
    spell setting (updateParts setting target fields row condition) =
      (update target fields row condition).body setting := by
  simp [updateParts, Statement.body]

theorem spell_mergeParts (lists : MergeFields) :
    spell setting (mergeParts setting target lists row report) =
      (merge target lists row report).body setting := by
  cases nothing : lists.updatable.isEmpty <;>
    simp [mergeParts, Statement.body, mergeWords, nothing]

theorem spell_upsertParts (lists : MergeFields) (rule : ConflictRule) :
    spell setting (upsertParts setting target lists row rule report) =
      (upsert target lists row rule report).body setting := by
  simp [upsertParts, valuesParts, Statement.body, spell_conflictParts]

/-- The parts of a statement spell its words. -/
@[simp]
theorem spell_parts (statement : Statement) :
    spell setting (statement.parts setting) = statement.words setting := by
  have body : spell setting (statement.bodyParts setting) = statement.body setting := by
    cases statement with
    | selectKey report => exact spell_reported "SELECT" (some report) setting
    | insert target fields row report => exact spell_insertParts setting target row report fields
    | update target fields row condition =>
        exact spell_updateParts setting target row fields condition
    | merge target lists row report => exact spell_mergeParts setting target row report lists
    | upsert target lists row rule report =>
        exact spell_upsertParts setting target row report lists rule
    | _ => exact spell_plain _ setting
  rw [parts, spell_append, spell_fixed, body, Statement.words]

end Spelling

def allParts (setting : Setting) (statements : List Statement) : List StatementPart :=
  statements.flatMap (parts setting)

theorem spell_allParts (setting : Setting) (statements : List Statement) :
    spell setting (allParts setting statements) = allWords setting statements := by
  rw [allParts, spell, List.map_flatMap]
  exact List.flatMap_congr fun statement _ => spell_parts setting statement

theorem lists_allParts (setting : Setting) (statements : List Statement) :
    Parts.lists (allParts setting statements) =
      statements.flatMap fun statement => Parts.lists (statement.parts setting) :=
  List.filterMap_flatMap

theorem columns_allParts (setting : Setting) (role : ListRole) (statements : List Statement) :
    columns role (allParts setting statements) =
      statements.flatMap fun statement => columns role (statement.parts setting) := by
  rw [columns, lists_allParts, List.flatMap_assoc]
  rfl

theorem reports_allParts (setting : Setting) (statements : List Statement) :
    reports (allParts setting statements) =
      statements.flatMap fun statement => reports (statement.parts setting) :=
  List.filterMap_flatMap

section Lists

variable (setting : Setting) (target : Target) (row : Nat)

@[simp]
theorem lists_selectKey (report : KeyReport) :
    Parts.lists ((selectKey report).parts setting) = [] := by
  simp [parts_selectKey]

@[simp]
theorem lists_update (fields : List Field) (condition : UpdateCondition) :
    Parts.lists ((update target fields row condition).parts setting) =
      [(.placeholderEquations row, fields)] := by
  simp [parts_update, updateParts]

/-- The target of a merge is assigned something only if there is something to assign. -/
@[simp]
theorem lists_merge (lists : MergeFields) (report : Option KeyReport) :
    Parts.lists ((merge target lists row report).parts setting) =
      [(.namedPlaceholders row, lists.fields), (.matchEquations, lists.qualifiers),
        (.insertedColumns, lists.insertable), (.sourceColumns, lists.insertable)] ++
        if lists.updatable = [] then [] else [(.sourceEquations, lists.updatable)] := by
  by_cases nothing : lists.updatable = [] <;> simp [parts_merge, mergeParts, nothing]

@[simp]
theorem lists_upsert (lists : MergeFields) (rule : ConflictRule) (report : Option KeyReport) :
    Parts.lists ((upsert target lists row rule report).parts setting) =
      [(.newColumns, lists.fields), (.placeholders row, lists.fields)] ++
        match rule with
        | .onConflict excluded =>
            (.conflictColumns, lists.qualifiers) ::
              if lists.updatable = [] then []
              else [(.excludedEquations excluded, lists.updatable)]
        | .onDuplicateKey =>
            [(.valuesEquations,
              if lists.updatable = [] then lists.qualifiers else lists.updatable)] := by
  cases rule <;> by_cases nothing : lists.updatable = [] <;>
    simp [parts_upsert, upsertParts, valuesParts, conflictParts, nothing]

end Lists

section Reports

variable (setting : Setting) (target : Target) (row : Nat)

@[simp]
theorem reports_selectKey (report : KeyReport) :
    reports ((selectKey report).parts setting) = [report] := by
  simp [parts_selectKey]

@[simp]
theorem reports_insert (fields : List Field) (report : Option KeyReport) :
    reports ((insert target fields row report).parts setting) = report.toList := by
  simp [parts_insert, insertParts, valuesParts]

@[simp]
theorem reports_update (fields : List Field) (condition : UpdateCondition) :
    reports ((update target fields row condition).parts setting) = [] := by
  simp [parts_update, updateParts]

@[simp]
theorem reports_merge (lists : MergeFields) (report : Option KeyReport) :
    reports ((merge target lists row report).parts setting) = report.toList := by
  cases nothing : lists.updatable.isEmpty <;> simp [parts_merge, mergeParts, nothing]

@[simp]
theorem reports_upsert (lists : MergeFields) (rule : ConflictRule)
    (report : Option KeyReport) :
    reports ((upsert target lists row rule report).parts setting) = report.toList := by
  have noReport : reports (conflictParts lists rule) = [] := by
    cases rule with
    | onConflict excluded =>
        cases nothing : lists.updatable.isEmpty <;> simp [conflictParts, nothing]
    | onDuplicateKey => simp [conflictParts]
  simp [parts_upsert, upsertParts, valuesParts, noReport]

end Reports

end Statement

end SqlCompiler
