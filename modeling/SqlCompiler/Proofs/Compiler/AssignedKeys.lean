import SqlCompiler.Proofs.Compiler.MergedColumns

/-!
# Key columns that are assigned

An update or a merge leaves out of its assignments the primary column and the
identity column that it resolves, and the qualifiers by which it finds its
rows.  The schema may flag more columns than the two that are resolved: the
others of a key with several columns, or a key beside one that the request
declares.  These are assigned if they are requested and are no qualifiers.
-/

namespace SqlCompiler

open Parts

namespace Request

variable {request : Request} {setting : Setting} {qualifiers : List Field}

/-- The columns that are declared as keys, and those that the schema flags. -/
def keyColumns (request : Request) : List Column :=
  request.primaryColumn.toList ++ request.identityColumn.toList ++
    request.columns.filter fun column => column.isPrimary || column.isIdentity

/-- Every flagged column that a field names is resolved as a key or is a qualifier. -/
def KeepsFlagged (request : Request) (setting : Setting) (qualifiers : List Field) : Prop :=
  ∀ column ∈ request.columns, (column.isPrimary || column.isIdentity) = true →
    Field.anyNamed request.fields setting column.name = true →
    request.isKept setting qualifiers column.field = true

/-- Names of the same column are kept alike. -/
theorem isKept_congr {first second : Field}
    (same : setting.sameName first.name second.name = true) :
    request.isKept setting qualifiers first = request.isKept setting qualifiers second := by
  simp only [isKept, isPrimary, isIdentity, setting.sameName_congr_left same]

theorem isKept_primary {key : Column} (resolved : request.primary? = some key) :
    request.isKept setting qualifiers key.field = true := by
  simp [isKept, isPrimary, resolved, Column.field, setting.sameName_refl]

theorem isKept_identity {key : Column} (resolved : request.identity? = some key) :
    request.isKept setting qualifiers key.field = true := by
  simp [isKept, isIdentity, resolved, Column.field, setting.sameName_refl]

/-- A column is free of assignments exactly if it is kept or no field names it. -/
theorem forall_freeFields_iff (column : Column) :
    (∀ field ∈ request.freeFields setting qualifiers,
        setting.sameName field.name column.name = false) ↔
      (Field.anyNamed request.fields setting column.name = true →
        request.isKept setting qualifiers column.field = true) := by
  constructor
  · intro unassigned named
    obtain ⟨field, member, same⟩ := List.any_eq_true.mp named
    have alike : request.isKept setting qualifiers field =
        request.isKept setting qualifiers column.field := isKept_congr same
    by_contra notKept
    have free : field ∈ request.freeFields setting qualifiers :=
      List.mem_filter.mpr ⟨member, by simpa [alike] using notKept⟩
    simp [unassigned field free] at same
  · intro kept field free
    obtain ⟨member, notKept⟩ := List.mem_filter.mp free
    by_contra same
    have same : setting.sameName field.name column.name = true := by simpa using same
    have named : Field.anyNamed request.fields setting column.name = true :=
      List.any_eq_true.mpr ⟨field, member, same⟩
    have alike : request.isKept setting qualifiers field =
        request.isKept setting qualifiers column.field := isKept_congr same
    simp [alike, kept named] at notKept

/-- Declared keys are kept in any case, so it is the schema that decides. -/
theorem keyColumns_unassigned_iff :
    (∀ key ∈ request.keyColumns, ∀ field ∈ request.freeFields setting qualifiers,
        setting.sameName field.name key.name = false) ↔
      request.KeepsFlagged setting qualifiers := by
  simp only [forall_freeFields_iff, keyColumns, List.forall_mem_append, List.mem_filter,
    and_imp, KeepsFlagged]
  constructor
  · rintro ⟨-, flagged⟩ column member
    exact flagged column member
  · intro flagged
    refine ⟨⟨fun key declared _ => ?_, fun key declared _ => ?_⟩, flagged⟩
    · apply isKept_primary
      rw [primary?, Option.mem_toList.mp declared, Option.some_or]
    · apply isKept_identity
      rw [identity?, Option.mem_toList.mp declared, Option.some_or]

end Request

/-- The operation assigns columns of rows that exist. -/
def Operation.assigns : Operation → Bool
  | .update _ | .merge _ => true
  | _ => false

namespace Compiler

variable {compiler : Compiler} {configuration : Configuration} {request : Request}
  {operation : Operation} {statements : List Statement} {qualifiers : List Field}

/-- The qualifiers by which an operation finds its rows; an update by a filter has none. -/
inductive FindsRowsBy (compiler : Compiler) (request : Request) :
    Operation → List Field → Prop where
  | filter {extent : Extent} {filter : Filter}
      (heeded : heededFilter request extent = some filter) :
      FindsRowsBy compiler request (.update extent) []
  | update {extent : Extent} {qualifiers : List Field}
      (unfiltered : heededFilter request extent = none)
      (resolved : request.resolveQualifiers compiler.setting = .ok qualifiers) :
      FindsRowsBy compiler request (.update extent) qualifiers
  | merge {extent : Extent} {qualifiers : List Field}
      (resolved : request.resolveQualifiers compiler.setting = .ok qualifiers) :
      FindsRowsBy compiler request (.merge extent) qualifiers

/-- A merge on MySQL assigns its qualifiers once more, since nothing else is left. -/
inductive Reassigns (compiler : Compiler) (request : Request) (qualifiers : List Field) :
    Operation → Prop where
  | merge {extent : Extent} (mySql : compiler.dialect = some .mySql)
      (nothing : request.freeFields compiler.setting qualifiers = []) :
      Reassigns compiler request qualifiers (.merge extent)

/-- Rows with the same list assign what the list has. -/
theorem mem_assigned_rows {setting : Setting} {row : Nat → List Statement}
    {assigned : List Field}
    (same : ∀ index, columns .assigned (Statement.allParts setting (row index)) = assigned)
    {rows : Nat} (positive : 0 < rows) {field : Field} :
    field ∈ columns .assigned
        (Statement.allParts setting ((List.range rows).flatMap row)) ↔ field ∈ assigned := by
  have perRow : columns .assigned
      (Statement.allParts setting ((List.range rows).flatMap row)) =
        (List.range rows).flatMap fun _ => assigned := by
    rw [Statement.columns_allParts, List.flatMap_assoc]
    refine List.flatMap_congr fun index _ => ?_
    rw [← Statement.columns_allParts, same]
  rw [perRow, List.mem_flatMap]
  constructor
  · rintro ⟨_, -, member⟩
    exact member
  · intro member
    exact ⟨0, List.mem_range.mpr positive, member⟩

/-- What an update or a merge assigns, in any of its rows. -/
theorem exists_assigned (assigns : operation.assigns = true)
    (compiled : compiler.compile configuration operation request = .ok statements) :
    ∃ qualifiers, compiler.FindsRowsBy request operation qualifiers ∧
      (¬compiler.Reassigns request qualifiers operation → ∀ field,
        field ∈ columns .assigned (Statement.allParts compiler.setting statements) ↔
          field ∈ request.freeFields compiler.setting qualifiers) := by
  cases operation with
  | update extent =>
      obtain ⟨plan, planned, rfl⟩ := compile_update_eq_ok_iff.mp compiled
      obtain ⟨-, -, -, chosen⟩ := planUpdate_eq_ok_iff.mp planned
      have rows (field : Field) : field ∈ columns .assigned (Statement.allParts compiler.setting
          ((List.range (extent.rows request)).map (updateRow request.target plan))) ↔
            field ∈ plan.fields := by
        rw [List.map_eq_flatMap]
        exact mem_assigned_rows
          (fun index => by simp [Statement.allParts, updateRow, columns, ListForm.roles])
          (extent.rows_pos request)
      cases heeded : heededFilter request extent with
      | some filter =>
          simp only [heeded] at chosen
          obtain ⟨kept, -⟩ := planFilteredUpdate_eq_ok_iff.mp chosen
          obtain ⟨fields, -⟩ := Request.someUpdatableFields_eq_ok_iff.mp kept
          rw [Request.updatableFields_eq_freeFields] at fields
          exact ⟨[], .filter heeded, fun _ field => fields ▸ rows field⟩
      | none =>
          simp only [heeded] at chosen
          obtain ⟨qualifiers, resolved, kept, -⟩ := planQualifiedUpdate_eq_ok_iff.mp chosen
          obtain ⟨fields, -⟩ := Request.someUpdatableFields_eq_ok_iff.mp kept
          rw [Request.updatableFields_eq_freeFields] at fields
          exact ⟨qualifiers, .update heeded resolved, fun _ field => fields ▸ rows field⟩
  | merge extent =>
      obtain ⟨dialect, plan, chosen, planned, rfl⟩ := compile_merge_eq_ok_iff.mp compiled
      obtain ⟨-, -, -, -, -, resolved, -⟩ := planMerge_eq_ok_iff.mp planned
      refine ⟨plan.parts.qualifiers, .merge resolved, fun reassigns field => ?_⟩
      have usual : ¬(dialect = .mySql ∧
          request.freeFields compiler.setting plan.parts.qualifiers = []) := by
        rintro ⟨rfl, nothing⟩
        exact reassigns (.merge chosen nothing)
      refine mem_assigned_rows (fun index => ?_) (extent.rows_pos request)
      rw [(columnsConsistent_mergeRow planned request.target _ index).assigned, if_neg usual]
  | _ => cases assigns

/-- No list of assignments in the text of the statements has the column. -/
def Unassigned (setting : Setting) (statements : List Statement) (column : Column) : Prop :=
  ∀ field ∈ columns .assigned (Statement.allParts setting statements),
    setting.sameName field.name column.name = false

/--
Except where MySQL assigns its qualifiers once more, the resolved keys are
never assigned, and no key at all is assigned exactly if every column that the
schema flags is resolved as a key, is a qualifier or is not requested.
-/
theorem key_columns_unassigned_iff {text : String} (assigns : operation.assigns = true)
    (accepted : compiler.text configuration operation request = .ok text) :
    ∃ statements qualifiers,
      compiler.compile configuration operation request = .ok statements ∧
      text = Statement.finishedText compiler.setting statements ∧
      compiler.FindsRowsBy request operation qualifiers ∧
      (¬compiler.Reassigns request qualifiers operation →
        (∀ key, request.primary? = some key ∨ request.identity? = some key →
          Unassigned compiler.setting statements key) ∧
        ((∀ key ∈ request.keyColumns, Unassigned compiler.setting statements key) ↔
          request.KeepsFlagged compiler.setting qualifiers)) := by
  obtain ⟨statements, compiled, rfl⟩ := text_eq_ok_iff.mp accepted
  obtain ⟨qualifiers, finds, assigned⟩ := exists_assigned assigns compiled
  refine ⟨statements, qualifiers, compiled, ?_, finds, fun usual => ?_⟩
  · rw [Statement.finishedText, Statement.spell_allParts, written]
  · have unassigned_iff (key : Column) : Unassigned compiler.setting statements key ↔
        ∀ field ∈ request.freeFields compiler.setting qualifiers,
          compiler.setting.sameName field.name key.name = false := by
      simp only [Unassigned, assigned usual]
    simp only [unassigned_iff]
    refine ⟨fun key resolved => ?_, Request.keyColumns_unassigned_iff⟩
    refine (Request.forall_freeFields_iff key).mpr fun _ => ?_
    obtain primary | identity := resolved
    · exact Request.isKept_primary primary
    · exact Request.isKept_identity identity

/-- A line of an order has a number inside its order, so both belong to its key. -/
def orderLine : Request where
  table := "OrderLine"
  fields := [{ name := "Order" }, { name := "Line" }, { name := "Quantity" }]
  columns := [.primary "Order", .primary "Line", { name := "Quantity" }]
  filter := some (.all [{ field := { name := "Order" }, comparison := .equal,
                          value := .int 1, kind := .plain }])

def orderLineUpdate : String :=
  "UPDATE [OrderLine] SET [Line] = @Line, [Quantity] = @Quantity WHERE ([Order] = @_Order) ;"

/-- The same line with one flagged column, by which it is found. -/
def numberedLine : Request :=
  { orderLine with columns := [.primary "Order", { name := "Line" }, { name := "Quantity" }] }

theorem key_columns_unassigned_iff_numberedLine :
    (Operation.update .oneRow).assigns = true ∧
      Dialect.sqlServer.compiler.text .initial (.update .oneRow) numberedLine =
        .ok orderLineUpdate ∧
      ∃ statements,
        Dialect.sqlServer.compiler.compile .initial (.update .oneRow) numberedLine =
          .ok statements ∧
        ∀ key ∈ numberedLine.keyColumns, Unassigned .sqlServer statements key := by
  have accepted : Dialect.sqlServer.compiler.text .initial (.update .oneRow) numberedLine =
      .ok orderLineUpdate := by
    rw [text_eq_map_joined]
    decide +kernel
  obtain ⟨statements, qualifiers, compiled, -, -, keys⟩ := key_columns_unassigned_iff rfl accepted
  obtain ⟨-, unassigned_iff⟩ := keys nofun
  refine ⟨rfl, accepted, statements, compiled, unassigned_iff.mpr ?_⟩
  intro column member flagged _
  -- The one flagged column is resolved as the primary one.
  have only : column = .primary "Order" := by
    simp only [numberedLine, List.mem_cons, List.not_mem_nil, or_false] at member
    obtain rfl | rfl | rfl := member
    · rfl
    · cases flagged
    · cases flagged
  exact only ▸ Request.isKept_primary rfl

/-- The number inside the order belongs to the key, and it is assigned. -/
theorem not_unassigned_orderLine :
    Dialect.sqlServer.compiler.text .initial (.update .oneRow) orderLine = .ok orderLineUpdate ∧
      ∃ statements,
        Dialect.sqlServer.compiler.compile .initial (.update .oneRow) orderLine =
          .ok statements ∧
        .primary "Line" ∈ orderLine.keyColumns ∧
        ¬Unassigned .sqlServer statements (.primary "Line") := by
  have accepted : Dialect.sqlServer.compiler.text .initial (.update .oneRow) orderLine =
      .ok orderLineUpdate := by
    rw [text_eq_map_joined]
    decide +kernel
  obtain ⟨statements, compiled, -⟩ := text_eq_ok_iff.mp accepted
  obtain ⟨qualifiers, finds, assigned⟩ := exists_assigned rfl compiled
  refine ⟨accepted, statements, compiled, by decide, fun unassigned => ?_⟩
  have heeded : (heededFilter orderLine .oneRow).isSome = true := by decide +kernel
  cases finds with
  | filter =>
      have free : { name := "Line" } ∈ orderLine.freeFields .sqlServer [] :=
        List.mem_filter.mpr ⟨by simp [orderLine], by decide +kernel⟩
      have different := unassigned _ ((assigned nofun _).mpr free)
      simp [Column.primary, Setting.sameName_refl] at different
  | update unfiltered =>
      rw [unfiltered] at heeded
      cases heeded

end Compiler

end SqlCompiler
