import SqlCompiler.Proofs.Compiler.Plan
import SqlCompiler.Proofs.Placeholder.Statement

/-!
# The placeholders of rows that are written

Inserts, merges and updates by qualifiers write their rows alike: a row stores
the values of some fields, compares others, and may read its key back through
the parameter of the key column.  All placeholders of the text are listed by
these three lists of fields, row by row.
-/

namespace SqlCompiler

/-- The fields whose placeholders the statements of one row have. -/
structure RowFields where
  stored : List Field
  compared : List Field := []
  reported : List Field := []

namespace RowFields

def placeholders (fields : RowFields) (setting : Setting) (row : Nat) : List Placeholder :=
  Field.placeholders fields.stored setting .stored row ++
    Field.placeholders fields.compared setting .compared row ++
    Field.placeholders fields.reported setting .reported row

theorem placeholders_stored (fields : List Field) (setting : Setting) :
    placeholders { stored := fields } setting = Field.placeholders fields setting .stored := by
  funext row
  simp [placeholders]

end RowFields

namespace Compiler

/-- The key of an inserted row is read back through its parameter. -/
def readsBackInserted (compiler : Compiler) (rows : Nat) (key : Column) : Bool :=
  !key.isIdentity &&
    match compiler.dialect with
    | some .sqlServer => rows ≤ 1
    | some .mySql | some .sqlite => true
    | some .postgreSql | none => false

/-- The key of a merged row is read back through its parameter. -/
def readsBackMerged (setting : Setting) (dialect : Dialect) (fields : List Field)
    (key : Column) : Bool :=
  match dialect with
  | .mySql | .sqlite => !key.isIdentity || Field.anyNamed fields setting key.name
  | .sqlServer | .postgreSql => false

/-- The field of a key that is read back through its parameter. -/
def keyFields (readsBack : Column → Bool) (key : Option Column) : List Field :=
  (key.filter readsBack).toList.map Column.field

def insertedFields (compiler : Compiler) (plan : InsertPlan) (rows : Nat) : RowFields where
  stored := plan.fields
  reported := keyFields (compiler.readsBackInserted rows) plan.key

def mergedFields (setting : Setting) (dialect : Dialect) (plan : MergePlan) : RowFields where
  stored := plan.parts.fields
  reported := keyFields (readsBackMerged setting dialect plan.parts.fields) plan.key

theorem keyFields_some (readsBack : Column → Bool) (key : Column) :
    keyFields readsBack (some key) = if readsBack key then [key.field] else [] := by
  cases reads : readsBack key <;> simp [keyFields, Option.filter, reads]

theorem placeholders_keySelection (setting : Setting) (batched : Bool) (row : Nat)
    (expression : KeyExpression) :
    (keySelection batched row expression).flatMap (Statement.placeholders setting) =
      expression.placeholders setting := by
  simp [keySelection, report]

theorem placeholders_scopeKey (setting : Setting) (key : Column) (row : Nat) :
    (scopeKey key row).placeholders setting =
      Field.placeholders (if key.isIdentity then [] else [key.field]) setting .reported row := by
  cases identity : key.isIdentity with
  | true => simp [scopeKey, KeyExpression.placeholders, identity, Field.placeholders]
  | false =>
      rw [scopeKey, if_neg (by simp [identity])]
      rfl

theorem placeholders_lastKey (setting : Setting) (function : String) (written : List Field)
    (key : Column) (row : Nat) :
    (lastKey setting function written key row).placeholders setting =
      Field.placeholders
        (if key.isIdentity && !Field.anyNamed written setting key.name then [] else [key.field])
        setting .reported row := by
  cases identity : key.isIdentity with
  | false =>
      rw [lastKey, if_pos (by simp [identity])]
      rfl
  | true =>
      cases named : Field.anyNamed written setting key.name with
      | false => simp [lastKey, KeyExpression.placeholders, identity, named, Field.placeholders]
      | true =>
          rw [lastKey, if_neg (by simp [identity]), if_pos named]
          rfl

/-- The placeholders of what stands behind the values of an inserted row. -/
theorem placeholders_insertTail (compiler : Compiler) (key : Option Column) {rows : Nat}
    (alone : ¬ (compiler.dialect = some .sqlServer ∧ 1 < rows)) (row : Nat) :
    KeyReport.placeholders (compiler.insertTail key row (1 < rows)).returned compiler.setting ++
        (compiler.insertTail key row (1 < rows)).behind.flatMap
          (Statement.placeholders compiler.setting) =
      Field.placeholders (keyFields (compiler.readsBackInserted rows) key) compiler.setting
        .reported row := by
  obtain ⟨dialect, setting, policy⟩ := compiler
  cases key with
  | none => rw [insertTail_none]; rfl
  | some key =>
      rw [keyFields_some]
      rcases dialect with _ | _ | _ | _ | _
      · simp [insertTail, readsBackInserted]
      · have few : rows ≤ 1 := by simpa using alone
        cases identity : key.isIdentity <;>
          simp [insertTail, readsBackInserted, placeholders_keySelection, placeholders_scopeKey,
            few, identity]
      · simp [insertTail, readsBackInserted, report, KeyExpression.placeholders]
      · cases identity : key.isIdentity <;>
          simp [insertTail, readsBackInserted, placeholders_keySelection, placeholders_lastKey,
            Field.anyNamed, identity]
      · cases identity : key.isIdentity <;>
          simp [insertTail, readsBackInserted, placeholders_keySelection, placeholders_lastKey,
            Field.anyNamed, identity]

/-- A key that the statement itself returns has no placeholder. -/
theorem placeholders_map_report (setting : Setting) (batched : Bool) (row : Nat)
    (expression : Column → KeyExpression)
    (plain : ∀ key, (expression key).placeholders setting = []) (key : Option Column) :
    KeyReport.placeholders (key.map (fun key => report batched row (expression key))) setting =
      [] := by
  cases key with
  | none => rfl
  | some key => exact plain key

theorem placeholders_insertRow (compiler : Compiler) (target : Target) (plan : InsertPlan)
    {rows : Nat} (alone : ¬ (compiler.dialect = some .sqlServer ∧ 1 < rows)) (row : Nat) :
    (compiler.insertRow target plan (1 < rows) row).flatMap
        (Statement.placeholders compiler.setting) =
      (compiler.insertedFields plan rows).placeholders compiler.setting row := by
  have tail := placeholders_insertTail compiler plan.key alone row
  simp only [insertRow, List.flatMap_cons, Statement.placeholders_insert, List.append_assoc, tail]
  simp [RowFields.placeholders, insertedFields]

/-- The placeholders of an insert are those of its rows, also where it writes them at once. -/
theorem placeholders_insertStatements (compiler : Compiler) (target : Target)
    (plan : InsertPlan) (rows : Nat) :
    Statement.allPlaceholders compiler.setting (compiler.insertStatements target plan rows) =
      (List.range rows).flatMap
        ((compiler.insertedFields plan rows).placeholders compiler.setting) := by
  rw [Statement.allPlaceholders_eq_flatMap]
  by_cases together : compiler.dialect = some .sqlServer ∧ 1 < rows
  · -- The key of a batch that is written at once is returned by the insert itself.
    have noKey : keyFields (compiler.readsBackInserted rows) plan.key = [] := by
      cases key : plan.key with
      | none => rfl
      | some key => simp [keyFields_some, readsBackInserted, together]
    have noReport := placeholders_map_report compiler.setting false 0
      (fun key => .inserted key.name) (fun _ => rfl) plan.key
    rw [insertStatements, if_pos together, insertedFields, noKey, RowFields.placeholders_stored]
    simp [insertBatch, noReport]
  · rw [insertStatements, if_neg together, List.flatMap_assoc]
    exact List.flatMap_congr fun row _ =>
      placeholders_insertRow compiler target plan together row

theorem placeholders_mergedKey (setting : Setting) (function : String) (plan : MergePlan)
    (batched : Bool) (row : Nat) :
    (mergedKey setting function plan batched row).flatMap (Statement.placeholders setting) =
      Field.placeholders
        (keyFields (fun key =>
          !key.isIdentity || Field.anyNamed plan.parts.fields setting key.name) plan.key)
        setting .reported row := by
  unfold mergedKey
  cases plan.key with
  | none => rfl
  | some key =>
      rw [placeholders_keySelection, placeholders_lastKey, keyFields_some]
      cases key.isIdentity <;> cases Field.anyNamed plan.parts.fields setting key.name <;> rfl

theorem placeholders_mergeRow (setting : Setting) (dialect : Dialect) (target : Target)
    (plan : MergePlan) (batched : Bool) (row : Nat) :
    (mergeRow setting dialect target plan batched row).flatMap (Statement.placeholders setting) =
      (mergedFields setting dialect plan).placeholders setting row := by
  have noKey (reads : readsBackMerged setting dialect plan.parts.fields = fun _ => false) :
      mergedFields setting dialect plan = { stored := plan.parts.fields } := by
    cases key : plan.key <;> simp [mergedFields, keyFields, reads, key]
  cases dialect with
  | sqlServer =>
      have noReport := placeholders_map_report setting batched row
        (fun key => .inserted key.name) (fun _ => rfl) plan.key
      rw [noKey rfl, RowFields.placeholders_stored]
      simp [mergeRow, noReport]
  | postgreSql =>
      have noReport := placeholders_map_report setting batched row
        (fun key => .returned key.name) (fun _ => rfl) plan.key
      rw [noKey rfl, RowFields.placeholders_stored]
      simp [mergeRow, noReport]
  | mySql =>
      simp only [mergeRow, List.flatMap_cons, Statement.placeholders_upsert,
        placeholders_mergedKey, RowFields.placeholders, mergedFields, KeyReport.placeholders_none,
        Field.placeholders_nil, List.append_nil]
      rfl
  | sqlite =>
      simp only [mergeRow, List.flatMap_cons, Statement.placeholders_upsert,
        placeholders_mergedKey, RowFields.placeholders, mergedFields, KeyReport.placeholders_none,
        Field.placeholders_nil, List.append_nil]
      rfl

/-- The placeholders of a merge are those of its rows. -/
theorem placeholders_merges (setting : Setting) (dialect : Dialect) (target : Target)
    (plan : MergePlan) (rows : Nat) :
    Statement.allPlaceholders setting
        ((List.range rows).flatMap (mergeRow setting dialect target plan (1 < rows))) =
      (List.range rows).flatMap ((mergedFields setting dialect plan).placeholders setting) := by
  rw [Statement.allPlaceholders_eq_flatMap, List.flatMap_assoc]
  exact List.flatMap_congr fun row _ => placeholders_mergeRow setting dialect target plan _ row

theorem placeholders_updateRow (setting : Setting) (target : Target)
    (fields qualifiers : List Field) (row : Nat) :
    (updateRow target { fields, condition := .qualifiers qualifiers } row).placeholders setting =
      RowFields.placeholders { stored := fields, compared := qualifiers } setting row := by
  simp [updateRow, UpdateCondition.fragments, RowFields.placeholders]

/-- The placeholders of an update by qualifiers are those of its rows. -/
theorem placeholders_updates (setting : Setting) (target : Target) (fields qualifiers : List Field)
    (rows : Nat) :
    Statement.allPlaceholders setting
        ((List.range rows).map
          (updateRow target { fields, condition := .qualifiers qualifiers })) =
      (List.range rows).flatMap
        (RowFields.placeholders { stored := fields, compared := qualifiers } setting) := by
  rw [Statement.allPlaceholders_eq_flatMap, List.flatMap_map]
  exact List.flatMap_congr fun row _ =>
    placeholders_updateRow setting target fields qualifiers row

end Compiler

end SqlCompiler
