import SqlCompiler.Proofs.Placeholder.Filter
import SqlCompiler.Statement.Words

/-!
# The placeholders of a statement

The fragments of a statement spell its words one by one for every mark.  Only
lists of parameters, conditions and reported keys have placeholders; table
names, columns, hints and keywords are fixed texts.
-/

namespace SqlCompiler

open Fragments

namespace Fragments

/-- Words without placeholders. -/
def fixedWords (words : List String) : List (List Fragment) :=
  words.map fixed

@[simp]
theorem map_spell_fixedWords (mark : String) (words : List String) :
    (fixedWords words).map (spell mark) = words := by
  simp [fixedWords, Function.comp_def]

@[simp]
theorem flatMap_placeholders_fixedWords (words : List String) :
    (fixedWords words).flatMap placeholders = [] := by
  simp [fixedWords, List.flatMap_map]

end Fragments

section FixedTexts

variable (setting : Setting) (mark : String)

@[simp]
theorem Field.quoted_withMark (field : Field) :
    field.quoted (setting.withMark mark) = field.quoted setting := by
  simp [Field.quoted]

@[simp]
theorem Clause.columnList_withMark (fields : List Field) :
    Clause.columnList (setting.withMark mark) fields = Clause.columnList setting fields := by
  simp [Clause.columnList]

@[simp]
theorem Clause.columnsOf_withMark (source : String) (fields : List Field) :
    Clause.columnsOf (setting.withMark mark) source fields =
      Clause.columnsOf setting source fields := by
  simp [Clause.columnsOf]

@[simp]
theorem Clause.equationBetween_withMark (left right : String) :
    Clause.equationBetween (setting.withMark mark) left right =
      Clause.equationBetween setting left right := by
  funext field
  simp [Clause.equationBetween]

@[simp]
theorem Clause.assignmentsBetween_withMark (left right : String) (fields : List Field) :
    Clause.assignmentsBetween (setting.withMark mark) left right fields =
      Clause.assignmentsBetween setting left right fields := by
  simp [Clause.assignmentsBetween]

@[simp]
theorem Clause.order_withMark (keys : List SortKey) :
    Clause.order (setting.withMark mark) keys = Clause.order setting keys := by
  simp [Clause.order, SortKey.text]

@[simp]
theorem Target.words_withMark (target : Target) :
    target.words (setting.withMark mark) = target.words setting := by
  simp [Target.words]

@[simp]
theorem Selection.words_withMark (selection : Selection) :
    selection.words (setting.withMark mark) = selection.words setting := by
  cases selection <;> simp [Selection.words, Clause.named]

@[simp]
theorem Statement.conflictWords_withMark (parts : MergeFields) (rule : ConflictRule) :
    Statement.conflictWords (setting.withMark mark) parts rule =
      Statement.conflictWords setting parts rule := by
  have excluded (source : String) :
      Statement.excludedEquation (setting.withMark mark) source =
        Statement.excludedEquation setting source := by
    funext field
    simp [Statement.excludedEquation]
  have duplicate :
      Statement.duplicateEquation (setting.withMark mark) =
        Statement.duplicateEquation setting := by
    funext field
    simp [Statement.duplicateEquation]
  cases rule <;> simp [Statement.conflictWords, excluded, duplicate]

end FixedTexts

namespace Field

def fragment (field : Field) (setting : Setting) (role : PlaceholderRole) (row : Nat) :
    Fragment :=
  .placeholder (field.placeholder setting role row)

@[simp]
theorem spelling_fragment (field : Field) (setting : Setting) (mark : String)
    (role : PlaceholderRole) (row : Nat) :
    (field.fragment setting role row).spelling mark =
      field.parameter (setting.withMark mark) row :=
  setting.spelling_placeholder mark role field.name row

@[simp]
theorem placeholder?_fragment (field : Field) (setting : Setting) (role : PlaceholderRole)
    (row : Nat) :
    (field.fragment setting role row).placeholder? = some (field.placeholder setting role row) :=
  rfl

/-- The placeholders of some fields in a row. -/
def placeholders (fields : List Field) (setting : Setting) (role : PlaceholderRole)
    (row : Nat) : List Placeholder :=
  fields.map (fun field => field.placeholder setting role row)

@[simp]
theorem placeholders_nil (setting : Setting) (role : PlaceholderRole) (row : Nat) :
    placeholders [] setting role row = [] :=
  rfl

end Field

namespace Clause

variable (setting : Setting) (fields : List Field) (row : Nat)

def parameterFragments : List Fragment :=
  joined ", " (fields.map (fun field => [field.fragment setting .stored row]))

def namedParameterFragments : List Fragment :=
  joined ", " (fields.map (fun field =>
    field.fragment setting .stored row :: fixed (" AS " ++ field.quoted setting)))

/-- Some columns, each equal to its placeholder in a row. -/
def equationFragments (role : PlaceholderRole) (separator : String) : List Fragment :=
  joined separator (fields.map (fun field =>
    fixed (field.quoted setting ++ " = ") ++ [field.fragment setting role row]))

def conditionFragments (filter : Option Filter) : List (List Fragment) :=
  match filter with
  | some filter => if filter.isEmpty then [] else [fixed "WHERE", filter.fragments setting row]
  | none => []

def equalityFragments : List (List Fragment) :=
  if fields.isEmpty then []
  else
    [fixed "WHERE",
      fixed "(" ++ equationFragments setting fields row .compared " AND " ++ fixed ")"]

@[simp]
theorem spell_parameterFragments (mark : String) :
    spell mark (parameterFragments setting fields row) =
      parameterList (setting.withMark mark) fields row := by
  simp [parameterFragments, parameterList, commaList, Function.comp_def]

@[simp]
theorem placeholders_parameterFragments :
    placeholders (parameterFragments setting fields row) =
      Field.placeholders fields setting .stored row := by
  simp [parameterFragments, List.flatMap_map, ← List.map_eq_flatMap, Field.placeholders]

@[simp]
theorem spell_namedParameterFragments (mark : String) :
    spell mark (namedParameterFragments setting fields row) =
      namedParameterList (setting.withMark mark) fields row := by
  simp [namedParameterFragments, namedParameterList, commaList, Function.comp_def,
    String.append_assoc]

@[simp]
theorem placeholders_namedParameterFragments :
    placeholders (namedParameterFragments setting fields row) =
      Field.placeholders fields setting .stored row := by
  simp [namedParameterFragments, List.flatMap_map, ← List.map_eq_flatMap, Field.placeholders]

@[simp]
theorem spell_equationFragments (mark : String) (role : PlaceholderRole) (separator : String) :
    spell mark (equationFragments setting fields row role separator) =
      separator.intercalate (fields.map (equation (setting.withMark mark) row)) := by
  have equations : equation (setting.withMark mark) row = fun field =>
      field.quoted setting ++ " = " ++ field.parameter (setting.withMark mark) row := by
    funext field
    simp [equation]
  simp [equationFragments, equations, Function.comp_def]

@[simp]
theorem placeholders_equationFragments (role : PlaceholderRole) (separator : String) :
    placeholders (equationFragments setting fields row role separator) =
      Field.placeholders fields setting role row := by
  simp [equationFragments, List.flatMap_map, ← List.map_eq_flatMap, Field.placeholders]

@[simp]
theorem map_spell_conditionFragments (mark : String) (filter : Option Filter) :
    (conditionFragments setting row filter).map (spell mark) =
      condition (setting.withMark mark) filter row := by
  unfold conditionFragments condition
  cases filter with
  | none => rfl
  | some filter =>
      cases empty : filter.isEmpty with
      | true => simp [empty]
      | false => simp [empty]

@[simp]
theorem map_spell_equalityFragments (mark : String) :
    (equalityFragments setting fields row).map (spell mark) =
      equalities (setting.withMark mark) fields row := by
  unfold equalityFragments equalities
  cases fields with
  | nil => rfl
  | cons field fields => simp [conjunctionList, String.append_assoc]

@[simp]
theorem placeholders_equalityFragments :
    (equalityFragments setting fields row).flatMap placeholders =
      Field.placeholders fields setting .compared row := by
  unfold equalityFragments
  cases fields with
  | nil => rfl
  | cons field fields => simp

end Clause

namespace KeyExpression

def fragments (expression : KeyExpression) (setting : Setting) : List Fragment :=
  match expression with
  | .parameter column row => [.placeholder (setting.placeholder .reported column row)]
  | .parameterElseGenerated column row function =>
      [.fixed "COALESCE(", .placeholder (setting.placeholder .reported column row),
        .fixed (", " ++ function ++ ")")]
  | other => fixed (other.text setting)

/-- The column whose placeholder a key is read back through, with its row. -/
def placeholders (expression : KeyExpression) (setting : Setting) : List Placeholder :=
  match expression with
  | .parameter column row | .parameterElseGenerated column row _ =>
      [setting.placeholder .reported column row]
  | _ => []

@[simp]
theorem spell_fragments (expression : KeyExpression) (setting : Setting) (mark : String) :
    spell mark (expression.fragments setting) = expression.text (setting.withMark mark) := by
  cases expression <;> simp [fragments, KeyExpression.text, String.append_assoc]

@[simp]
theorem placeholders_fragments (expression : KeyExpression) (setting : Setting) :
    Fragments.placeholders (expression.fragments setting) = expression.placeholders setting := by
  cases expression <;> rfl

end KeyExpression

namespace KeyReport

def fragments (report : KeyReport) (setting : Setting) : List Fragment :=
  report.expression.fragments setting ++ fixed (" AS " ++ setting.quote "Result") ++
    match report.row with
    | some row => fixed (", " ++ toString row ++ " AS " ++ setting.quote "Index")
    | none => []

def clauseFragments (keyword : String) (report : Option KeyReport) (setting : Setting) :
    List (List Fragment) :=
  match report with
  | some report => [fixed keyword, report.fragments setting]
  | none => []

def placeholders (report : Option KeyReport) (setting : Setting) : List Placeholder :=
  match report with
  | some report => report.expression.placeholders setting
  | none => []

@[simp]
theorem placeholders_none (setting : Setting) : placeholders none setting = [] :=
  rfl

@[simp]
theorem placeholders_some (report : KeyReport) (setting : Setting) :
    placeholders (some report) setting = report.expression.placeholders setting :=
  rfl

@[simp]
theorem spell_fragments (report : KeyReport) (setting : Setting) (mark : String) :
    spell mark (report.fragments setting) = report.text (setting.withMark mark) := by
  obtain ⟨expression, row⟩ := report
  cases row <;> simp [fragments, KeyReport.text, String.append_assoc]

@[simp]
theorem map_spell_clauseFragments (keyword : String) (report : Option KeyReport)
    (setting : Setting) (mark : String) :
    (clauseFragments keyword report setting).map (spell mark) =
      clause keyword report (setting.withMark mark) := by
  cases report <;> simp [clauseFragments, clause]

@[simp]
theorem flatMap_placeholders_clauseFragments (keyword : String) (report : Option KeyReport)
    (setting : Setting) :
    (clauseFragments keyword report setting).flatMap Fragments.placeholders =
      placeholders report setting := by
  cases report with
  | none => rfl
  | some report =>
      obtain ⟨expression, row⟩ := report
      cases row <;> simp [clauseFragments, fragments]

end KeyReport

namespace UpdateCondition

def fragments (condition : UpdateCondition) (setting : Setting) (row : Nat) :
    List (List Fragment) :=
  match condition with
  | .filter tree => Clause.conditionFragments setting row (some tree)
  | .qualifiers matched => Clause.equalityFragments setting matched row

@[simp]
theorem map_spell_fragments (condition : UpdateCondition) (setting : Setting) (row : Nat)
    (mark : String) :
    (condition.fragments setting row).map (spell mark) =
      condition.words (setting.withMark mark) row := by
  cases condition <;> simp [fragments, words]

def placeholders (condition : UpdateCondition) (setting : Setting) (row : Nat) :
    List Placeholder :=
  (condition.fragments setting row).flatMap Fragments.placeholders

theorem placeholders_filter (filter : Filter) (setting : Setting) (row : Nat) :
    (UpdateCondition.filter filter).placeholders setting row =
      Fragments.placeholders (filter.fragments setting row) := by
  cases empty : filter.isEmpty with
  | true =>
      rw [Filter.placeholders_fragments, Filter.leaves_of_isEmpty empty]
      simp [placeholders, fragments, Clause.conditionFragments, empty]
  | false => simp [placeholders, fragments, Clause.conditionFragments, empty]

theorem placeholders_qualifiers (qualifiers : List Field) (setting : Setting) (row : Nat) :
    (UpdateCondition.qualifiers qualifiers).placeholders setting row =
      Field.placeholders qualifiers setting .compared row :=
  Clause.placeholders_equalityFragments setting qualifiers row

theorem role_of_mem_placeholders {condition : UpdateCondition} {setting : Setting} {row : Nat}
    {inside : Placeholder} (member : inside ∈ condition.placeholders setting row) :
    inside.role = .compared := by
  cases condition with
  | filter filter =>
      rw [placeholders_filter] at member
      exact Filter.role_of_mem_fragments member
  | qualifiers qualifiers =>
      rw [placeholders_qualifiers] at member
      obtain ⟨field, -, rfl⟩ := List.mem_map.mp member
      rfl

end UpdateCondition

namespace Statement

def rowTupleFragments (setting : Setting) (fields : List Field) (row : Nat) : List Fragment :=
  fixed "( " ++ Clause.parameterFragments setting fields row ++
    fixed (", " ++ toString row ++ " )")

/-- The words of a statement in front of its terminator, each as fragments. -/
def bodyFragments (setting : Setting) : Statement → List (List Fragment)
  | .select selection target filter order top window =>
      fixedWords (["SELECT"] ++ (top.map Clause.top).getD [] ++ selection.words setting ++
          ["FROM"] ++ target.words setting) ++
        Clause.conditionFragments setting 0 filter ++
        fixedWords (Clause.order setting order ++ window.words)
  | .selectPage fields target filter order page =>
      fixedWords (["WITH", "CTE", "AS", "(", "SELECT", "ROW_NUMBER()", "OVER", "("] ++
          Clause.order setting order ++
          [")", "AS " ++ setting.quote "RowNumber" ++ ",", Clause.columnList setting fields,
            "FROM"] ++ target.words setting) ++
        Clause.conditionFragments setting 0 filter ++
        fixedWords ([")", "SELECT", Clause.columnList setting fields, "FROM", "CTE",
            "WHERE (" ++ setting.quote "RowNumber" ++ " BETWEEN " ++ toString (page.offset + 1) ++
              " AND " ++ toString page.last ++ ")"] ++ Clause.order setting order)
  | .selectKey report => KeyReport.clauseFragments "SELECT" (some report) setting
  | .delete target filter =>
      fixedWords (["DELETE", "FROM"] ++ target.words setting) ++
        Clause.conditionFragments setting 0 filter
  | .truncate table => fixedWords ["TRUNCATE", "TABLE", setting.quote table]
  | .vacuum => fixedWords ["VACUUM"]
  | .insert target fields row report =>
      fixedWords (["INSERT", "INTO"] ++ target.words setting ++
          ["(", Clause.columnList setting fields, ")", "VALUES", "("]) ++
        [Clause.parameterFragments setting fields row] ++ fixedWords [")"] ++
        KeyReport.clauseFragments "RETURNING" report setting
  | .insertRows target fields rows report =>
      fixedWords (["INSERT", "INTO"] ++ target.words setting ++
          ["(", Clause.columnList setting fields, ")"]) ++
        KeyReport.clauseFragments "OUTPUT" report setting ++
        fixedWords ["SELECT", Clause.columnList setting fields, "FROM", "(", "VALUES"] ++
        [joined ", " ((List.range rows).map (rowTupleFragments setting fields))] ++
        fixedWords [")", "AS S ( " ++ Clause.columnList setting fields ++ ", " ++
            setting.quote "__RowIndex" ++ " )",
          "ORDER BY S." ++ setting.quote "__RowIndex"]
  | .update target fields row condition =>
      fixedWords (["UPDATE"] ++ target.words setting ++ ["SET"]) ++
        [Clause.equationFragments setting fields row .stored ", "] ++
        condition.fragments setting row
  | .merge target parts row report =>
      fixedWords (["MERGE"] ++ target.words setting ++ ["AS T", "USING", "(", "SELECT"]) ++
        [Clause.namedParameterFragments setting parts.fields row] ++
        fixedWords
          ([")", "AS S", "ON", "(",
            Clause.conjunctionList
              (parts.qualifiers.map (Clause.equationBetween setting "T" "S")), ")",
            "WHEN", "NOT", "MATCHED", "THEN", "INSERT", "(",
            Clause.columnList setting parts.insertable, ")", "VALUES", "(",
            Clause.columnsOf setting "S" parts.insertable, ")"] ++
            if parts.updatable.isEmpty then []
            else
              ["WHEN", "MATCHED", "THEN", "UPDATE", "SET",
                Clause.assignmentsBetween setting "T" "S" parts.updatable]) ++
        KeyReport.clauseFragments "OUTPUT" report setting
  | .upsert target parts row rule report =>
      fixedWords (["INSERT", "INTO"] ++ target.words setting ++
          ["(", Clause.columnList setting parts.fields, ")", "VALUES", "("]) ++
        [Clause.parameterFragments setting parts.fields row] ++
        fixedWords ([")"] ++ conflictWords setting parts rule) ++
        KeyReport.clauseFragments "RETURNING" report setting

def fragments (setting : Setting) (statement : Statement) : List (List Fragment) :=
  statement.bodyFragments setting ++ fixedWords [terminator]

@[simp]
theorem spell_rowTupleFragments (setting : Setting) (fields : List Field) (row : Nat)
    (mark : String) :
    spell mark (rowTupleFragments setting fields row) =
      rowTuple (setting.withMark mark) fields row := by
  simp [rowTupleFragments, rowTuple, String.append_assoc]

/-- The fragments of a statement spell its words for every mark. -/
theorem map_spell_fragments (setting : Setting) (statement : Statement) (mark : String) :
    (statement.fragments setting).map (spell mark) = statement.words (setting.withMark mark) := by
  have body : (statement.bodyFragments setting).map (spell mark) =
      statement.body (setting.withMark mark) := by
    cases statement with
    | select selection target filter order top window => simp [bodyFragments, Statement.body]
    | selectPage fields target filter order page =>
        simp [bodyFragments, Statement.body, selectPageWords]
    | selectKey report => simp [bodyFragments, Statement.body]
    | delete target filter => simp [bodyFragments, Statement.body]
    | truncate table => simp [bodyFragments, Statement.body]
    | vacuum => simp [bodyFragments, Statement.body]
    | insert target fields row report => simp [bodyFragments, Statement.body, insertWords]
    | insertRows target fields rows report =>
        simp [bodyFragments, Statement.body, insertRowsWords, Clause.commaList,
          Function.comp_def]
    | update target fields row condition =>
        simp [bodyFragments, Statement.body, Clause.assignmentList, Clause.commaList]
    | merge target parts row report => simp [bodyFragments, Statement.body, mergeWords]
    | upsert target parts row rule report => simp [bodyFragments, Statement.body]
  simp [fragments, Statement.words, body]

def placeholders (setting : Setting) (statement : Statement) : List Placeholder :=
  (statement.fragments setting).flatMap Fragments.placeholders

@[simp]
theorem placeholders_select (setting : Setting) (selection : Selection) (target : Target)
    (filter : Option Filter) (order : List SortKey) (top : Option Nat) (window : RowWindow) :
    (select selection target filter order top window).placeholders setting =
      (Clause.conditionFragments setting 0 filter).flatMap Fragments.placeholders := by
  simp [placeholders, fragments, bodyFragments]

@[simp]
theorem placeholders_selectPage (setting : Setting) (fields : List Field) (target : Target)
    (filter : Option Filter) (order : List SortKey) (page : Request.Page) :
    (selectPage fields target filter order page).placeholders setting =
      (Clause.conditionFragments setting 0 filter).flatMap Fragments.placeholders := by
  simp [placeholders, fragments, bodyFragments]

@[simp]
theorem placeholders_delete (setting : Setting) (target : Target) (filter : Option Filter) :
    (delete target filter).placeholders setting =
      (Clause.conditionFragments setting 0 filter).flatMap Fragments.placeholders := by
  simp [placeholders, fragments, bodyFragments]

@[simp]
theorem placeholders_selectKey (setting : Setting) (report : KeyReport) :
    (selectKey report).placeholders setting = report.expression.placeholders setting := by
  simp [placeholders, fragments, bodyFragments]

@[simp]
theorem placeholders_insert (setting : Setting) (target : Target) (fields : List Field)
    (row : Nat) (report : Option KeyReport) :
    (insert target fields row report).placeholders setting =
      Field.placeholders fields setting .stored row ++ KeyReport.placeholders report setting := by
  simp [placeholders, fragments, bodyFragments]

@[simp]
theorem placeholders_insertRows (setting : Setting) (target : Target) (fields : List Field)
    (rows : Nat) (report : Option KeyReport) :
    (insertRows target fields rows report).placeholders setting =
      KeyReport.placeholders report setting ++
        (List.range rows).flatMap (Field.placeholders fields setting .stored) := by
  simp [placeholders, fragments, bodyFragments, rowTupleFragments, List.flatMap_map]

@[simp]
theorem placeholders_update (setting : Setting) (target : Target) (fields : List Field)
    (row : Nat) (condition : UpdateCondition) :
    (update target fields row condition).placeholders setting =
      Field.placeholders fields setting .stored row ++
        (condition.fragments setting row).flatMap Fragments.placeholders := by
  simp [placeholders, fragments, bodyFragments]

@[simp]
theorem placeholders_merge (setting : Setting) (target : Target) (parts : MergeFields)
    (row : Nat) (report : Option KeyReport) :
    (merge target parts row report).placeholders setting =
      Field.placeholders parts.fields setting .stored row ++
        KeyReport.placeholders report setting := by
  simp [placeholders, fragments, bodyFragments]

@[simp]
theorem placeholders_upsert (setting : Setting) (target : Target) (parts : MergeFields)
    (row : Nat) (rule : ConflictRule) (report : Option KeyReport) :
    (upsert target parts row rule report).placeholders setting =
      Field.placeholders parts.fields setting .stored row ++
        KeyReport.placeholders report setting := by
  simp [placeholders, fragments, bodyFragments]

def allFragments (setting : Setting) (statements : List Statement) : List (List Fragment) :=
  statements.flatMap (fragments setting)

def allPlaceholders (setting : Setting) (statements : List Statement) : List Placeholder :=
  (allFragments setting statements).flatMap Fragments.placeholders

theorem map_spell_allFragments (setting : Setting) (statements : List Statement)
    (mark : String) :
    (allFragments setting statements).map (spell mark) =
      allWords (setting.withMark mark) statements := by
  simp only [allFragments, allWords, List.map_flatMap, map_spell_fragments]

theorem allPlaceholders_eq_flatMap (setting : Setting) (statements : List Statement) :
    allPlaceholders setting statements = statements.flatMap (placeholders setting) := by
  rw [allPlaceholders, allFragments, List.flatMap_assoc]
  rfl

end Statement

end SqlCompiler
