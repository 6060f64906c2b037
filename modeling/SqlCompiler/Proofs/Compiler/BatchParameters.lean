import SqlCompiler.Proofs.Compiler.RowPlaceholders
import SqlCompiler.Proofs.Identifier.RowNames

/-!
# Every row and column of a batch has a parameter of its own

The text of a batch refers to the parameters of some fields, row by row: the
fields that an insert stores, all fields of a merge, and the assigned fields
of an update with the qualifiers behind them.  They are distinct under one
condition on the names of the columns and the number of rows.
-/

namespace SqlCompiler

/-- The parameters of stored and compared values in a text, from left to right. -/
def Statement.valueParameters (setting : Setting) (statements : List Statement) : List String :=
  ((allPlaceholders setting statements).filter (·.role ≠ .reported)).map
    (fun inside => setting.parameterMark ++ inside.name)

theorem Field.valueParameters_placeholders (fields : List Field) (setting : Setting) (row : Nat)
    {role : PlaceholderRole} (value : role ≠ .reported) :
    ((Field.placeholders fields setting role row).filter (·.role ≠ .reported)).map
        (fun inside => setting.parameterMark ++ inside.name) =
      fields.map (fun field => field.parameter setting row) := by
  have kept : (Field.placeholders fields setting role row).filter (·.role ≠ .reported) =
      Field.placeholders fields setting role row := by
    refine List.filter_eq_self.mpr fun inside member => ?_
    obtain ⟨field, -, rfl⟩ := List.mem_map.mp member
    exact decide_eq_true value
  rw [kept, Field.placeholders, List.map_map]
  rfl

theorem RowFields.valueParameters_placeholders (fields : RowFields) (setting : Setting)
    (row : Nat) :
    ((fields.placeholders setting row).filter (·.role ≠ .reported)).map
        (fun inside => setting.parameterMark ++ inside.name) =
      (fields.stored ++ fields.compared).map (fun field => field.parameter setting row) := by
  have noKey : (Field.placeholders fields.reported setting .reported row).filter
      (·.role ≠ .reported) = [] := by
    refine List.filter_eq_nil_iff.mpr fun inside member => ?_
    obtain ⟨field, -, rfl⟩ := List.mem_map.mp member
    simp
  rw [placeholders, List.filter_append, List.filter_append, noKey, List.append_nil,
    List.map_append, List.map_append,
    Field.valueParameters_placeholders _ _ _ (by decide),
    Field.valueParameters_placeholders _ _ _ (by decide)]

theorem RowFields.valueParameters_eq {fields : RowFields} {setting : Setting} {rows : Nat}
    {statements : List Statement}
    (listed : Statement.allPlaceholders setting statements =
      (List.range rows).flatMap (fields.placeholders setting)) :
    Statement.valueParameters setting statements =
      Field.rowParameters (fields.stored ++ fields.compared) setting rows := by
  rw [Statement.valueParameters, listed, List.filter_flatMap, List.map_flatMap]
  exact List.flatMap_congr fun row _ => fields.valueParameters_placeholders setting row

namespace Compiler

/-- The fields whose values a batch writes or compares in every row. -/
inductive BatchFields (compiler : Compiler) (request : Request) :
    Operation → List Field → Prop where
  | insert {fields : List Field}
      (kept : request.insertableFields compiler.setting = .ok fields) :
      BatchFields compiler request (.insert .batch) fields
  | merge : BatchFields compiler request (.merge .batch) request.fields
  | update {fields qualifiers : List Field}
      (resolved : request.resolveQualifiers compiler.setting = .ok qualifiers)
      (kept : request.someUpdatableFields compiler.setting qualifiers = .ok fields) :
      BatchFields compiler request (.update .batch) (fields ++ qualifiers)

def batchOperations : List Operation :=
  [.insert .batch, .merge .batch, .update .batch]

theorem exists_batchFields {compiler : Compiler} {configuration : Configuration}
    {request : Request} {operation : Operation} {statements : List Statement}
    (batch : operation ∈ batchOperations)
    (compiled : compiler.compile configuration operation request = .ok statements) :
    ∃ fields, BatchFields compiler request operation fields ∧
      Statement.valueParameters compiler.setting statements =
        Field.rowParameters fields compiler.setting request.rows := by
  simp only [batchOperations, List.mem_cons, List.not_mem_nil, or_false] at batch
  obtain rfl | rfl | rfl := batch
  · obtain ⟨plan, planned, rfl⟩ := compile_insert_eq_ok_iff.mp compiled
    obtain ⟨-, -, -, -, kept, -⟩ := planInsert_eq_ok_iff.mp planned
    refine ⟨plan.fields, .insert kept, ?_⟩
    rw [RowFields.valueParameters_eq (placeholders_insertStatements compiler _ plan _),
      insertedFields, List.append_nil]
    rfl
  · obtain ⟨dialect, plan, -, planned, rfl⟩ := compile_merge_eq_ok_iff.mp compiled
    obtain ⟨-, -, -, -, sameFields, -⟩ := planMerge_eq_ok_iff.mp planned
    refine ⟨request.fields, .merge, ?_⟩
    rw [RowFields.valueParameters_eq (placeholders_merges compiler.setting dialect _ plan _),
      mergedFields, sameFields, List.append_nil]
    rfl
  · obtain ⟨⟨fields, condition⟩, planned, rfl⟩ := compile_update_eq_ok_iff.mp compiled
    obtain ⟨-, -, -, qualified⟩ := planUpdate_eq_ok_iff.mp planned
    obtain ⟨qualifiers, resolved, kept, rfl⟩ := planQualifiedUpdate_eq_ok_iff.mp qualified
    refine ⟨fields ++ qualifiers, .update resolved kept, ?_⟩
    exact RowFields.valueParameters_eq
      (placeholders_updates compiler.setting _ fields qualifiers _)

/--
The parameters of some fields in several rows are distinct exactly when the
column names are, and none of them is another one with the number of a later
row.  A text that writes a batch refers to these parameters one by one, so
this is also the condition under which each of its rows and columns has a
parameter of its own.
-/
theorem nodup_batch_iff (compiler : Compiler) :
    (∀ (fields : List Field) (rows : Nat), 0 < rows →
      ((Field.rowParameters fields compiler.setting rows).Nodup ↔
        NoRowClash (fields.map fun field => compiler.setting.parameterName field.name) rows)) ∧
    ∀ (configuration : Configuration) (request : Request) (operation : Operation)
      (statements : List Statement), operation ∈ batchOperations →
      compiler.compile configuration operation request = .ok statements →
      (∀ mark, (Statement.allFragments compiler.setting statements).map (Fragments.spell mark) =
        Statement.allWords (compiler.setting.withMark mark) statements) ∧
      ∃ fields, BatchFields compiler request operation fields ∧
        Statement.valueParameters compiler.setting statements =
          Field.rowParameters fields compiler.setting request.rows ∧
        ((Statement.valueParameters compiler.setting statements).Nodup ↔
          NoRowClash (fields.map fun field => compiler.setting.parameterName field.name)
            request.rows) := by
  refine ⟨fun fields rows positive => Field.nodup_rowParameters fields compiler.setting positive,
    ?_⟩
  intro configuration request operation statements batch compiled
  obtain ⟨fields, batchFields, listed⟩ := exists_batchFields batch compiled
  refine ⟨Statement.map_spell_allFragments compiler.setting statements, fields, batchFields,
    listed, ?_⟩
  rw [listed]
  exact Field.nodup_rowParameters fields compiler.setting request.rows_pos

/-- A column that is named like the second row of another one. -/
def numberedColumn : Request where
  table := "Item"
  fields := [{ name := "A" }, { name := "A_1" }]
  batchSize := 2

def numberedColumnInserts : List Statement :=
  [.insert numberedColumn.target numberedColumn.fields 0 none,
    .insert numberedColumn.target numberedColumn.fields 1 none]

theorem nodup_batch_iff_numberedColumn :
    0 < 2 ∧ Operation.insert .batch ∈ batchOperations ∧
      Dialect.postgreSql.compiler.compile .initial (.insert .batch) numberedColumn =
        .ok numberedColumnInserts ∧
      ((Field.rowParameters numberedColumn.fields .postgreSql 2).Nodup ↔
        NoRowClash (numberedColumn.fields.map fun field =>
          Setting.postgreSql.parameterName field.name) 2) ∧
      ∃ fields,
        BatchFields Dialect.postgreSql.compiler numberedColumn (.insert .batch) fields ∧
        Statement.valueParameters .postgreSql numberedColumnInserts =
          Field.rowParameters fields .postgreSql 2 ∧
        ((Statement.valueParameters .postgreSql numberedColumnInserts).Nodup ↔
          NoRowClash (fields.map fun field => Setting.postgreSql.parameterName field.name) 2) := by
  have positive : 0 < 2 := by decide
  have batch : Operation.insert .batch ∈ batchOperations := by simp [batchOperations]
  have compiled : Dialect.postgreSql.compiler.compile .initial (.insert .batch) numberedColumn =
      .ok numberedColumnInserts := rfl
  obtain ⟨lists, texts⟩ := nodup_batch_iff Dialect.postgreSql.compiler
  exact ⟨positive, batch, compiled, lists numberedColumn.fields 2 positive,
    (texts .initial numberedColumn (.insert .batch) _ batch compiled).2⟩

example : Statement.valueParameters .postgreSql numberedColumnInserts =
    ["@A", "@A_1", "@A_1", "@A_1_1"] := by
  decide +kernel

end Compiler

end SqlCompiler
