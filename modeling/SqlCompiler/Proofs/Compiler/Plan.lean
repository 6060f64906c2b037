import SqlCompiler.Compiler.Compile
import SqlCompiler.Proofs.Statement.Spacing

/-!
# What an accepted request has passed

Every operation is described once by the checks that an accepted request has
passed and by its statements.  A statement that writes rows is compiled from a
plan, and a plan is made from the results of the checks, so inserts, updates
and merges are described by the plans that are accepted.
-/

namespace SqlCompiler

namespace Request

variable {request : Request} {setting : Setting} {qualifiers fields : List Field}

/-- A list of fields that must not be empty is accepted as it is. -/
theorem nonempty_eq_ok_iff {list : List Field} {problem : CompileError} :
    (if list.isEmpty then .error problem else .ok list : Except CompileError (List Field)) =
        .ok fields ↔
      fields = list ∧ fields ≠ [] := by
  cases list with
  | nil => simp
  | cons field rest =>
      constructor
      · intro accepted
        cases accepted
        exact ⟨rfl, List.cons_ne_nil field rest⟩
      · rintro ⟨rfl, -⟩
        rfl

theorem insertableFields_eq_ok_iff :
    request.insertableFields setting = .ok fields ↔
      fields = Field.without request.fields setting (request.identity?.toList.map (·.name)) ∧
        fields ≠ [] :=
  nonempty_eq_ok_iff

theorem someUpdatableFields_eq_ok_iff :
    request.someUpdatableFields setting qualifiers = .ok fields ↔
      fields = request.updatableFields setting qualifiers ∧ fields ≠ [] :=
  nonempty_eq_ok_iff

/-- The fields that an insert stores are requested. -/
theorem insertableFields_subset (kept : request.insertableFields setting = .ok fields) :
    fields ⊆ request.fields := by
  obtain ⟨rfl, -⟩ := insertableFields_eq_ok_iff.mp kept
  exact List.filter_sublist.subset

theorem updatableFields_subset : request.updatableFields setting qualifiers ⊆ request.fields :=
  List.filter_sublist.subset

/-- There is always a field by which existing rows are matched. -/
theorem candidateQualifiers_ne_nil (candidates : request.candidateQualifiers = .ok qualifiers) :
    qualifiers ≠ [] := by
  unfold candidateQualifiers at candidates
  split at candidates
  next given =>
    cases candidates
    simpa using given
  next =>
    split at candidates
    next column _ =>
      cases candidates
      exact List.cons_ne_nil column.field []
    next => cases candidates

theorem resolveQualifiers_ne_nil (resolved : request.resolveQualifiers setting = .ok qualifiers) :
    qualifiers ≠ [] := by
  obtain ⟨candidates, given, checked⟩ := bind_eq_ok_iff.mp resolved
  split at checked
  next => cases checked
  next =>
    cases checked
    exact candidateQualifiers_ne_nil given

end Request

/-- The statement selects or deletes rows of a table. -/
def Statement.isPlain : Statement → Bool
  | .select _ _ _ _ _ _ | .selectPage _ _ _ _ _ | .delete _ _ => true
  | _ => false

/-- The operation only selects or deletes rows of its table. -/
def Operation.isPlain : Operation → Bool
  | .truncate | .insert _ | .update _ | .merge _ => false
  | _ => true

/-- The filter of a selection or a deletion. -/
def Statement.filter? : Statement → Option Filter
  | .select _ _ filter _ _ _ | .selectPage _ _ filter _ _ | .delete _ filter => filter
  | _ => none

/-- An update heeds the filter of the request: it is for one row and the filter has a leaf. -/
def Compiler.heededFilter (request : Request) : Extent → Option Filter
  | .oneRow => request.effectiveFilter
  | .batch => none

/-- The filter of which an operation makes its condition. -/
def Operation.condition (request : Request) : Operation → Option Filter
  | .count scope | .aggregate _ _ scope | .delete scope => scope.filter request
  | .anyRow | .query _ | .batchQuery _ _ => request.effectiveFilter
  | .update extent => (Compiler.heededFilter request extent).map Filter.forUpdate
  | .truncate | .insert _ | .queryAll | .merge _ => none

namespace Compiler

variable {compiler : Compiler} {configuration : Configuration} {request : Request}
  {extent : Extent} {statements : List Statement}

theorem compile_count_eq_ok_iff {scope : Scope} :
    compiler.compile configuration (.count scope) request = .ok statements ↔
      request.checkCommon compiler.setting = .ok () ∧
        statements = [compiler.countStatement request scope] := by
  rw [compile, count, check_bind_eq_ok_iff]
  simp [eq_comm]

theorem compile_anyRow_eq_ok_iff :
    compiler.compile configuration .anyRow request = .ok statements ↔
      request.checkCommon compiler.setting = .ok () ∧
        statements = [compiler.anyRowStatement request] := by
  rw [compile, anyRow, check_bind_eq_ok_iff]
  simp [eq_comm]

theorem compile_aggregate_eq_ok_iff {function : Aggregate} {field : Field} {scope : Scope} :
    compiler.compile configuration (.aggregate function field scope) request = .ok statements ↔
      request.checkCommon compiler.setting = .ok () ∧
        statements = [compiler.aggregateStatement request function field scope] := by
  rw [compile, aggregate, check_bind_eq_ok_iff]
  simp [eq_comm]

theorem compile_delete_eq_ok_iff {scope : Scope} :
    compiler.compile configuration (.delete scope) request = .ok statements ↔
      request.checkCommon compiler.setting = .ok () ∧
        statements = [deleteStatement request scope] := by
  rw [compile, delete, check_bind_eq_ok_iff]
  simp [eq_comm]

theorem compile_truncate_eq_ok_iff :
    compiler.compile configuration .truncate request = .ok statements ↔
      request.checkCommon compiler.setting = .ok () ∧ request.checkNoHints = .ok () ∧
        statements = compiler.truncateStatements request := by
  rw [compile, truncate_eq, check_bind_eq_ok_iff, check_bind_eq_ok_iff]
  simp [eq_comm]

theorem query_eq_ok_iff {top : Option Nat} {scope : Scope} :
    compiler.query request top scope = .ok statements ↔
      request.checkCommon compiler.setting = .ok () ∧ request.checkFields = .ok () ∧
        statements = [compiler.queryStatement request top scope] := by
  rw [query, check_bind_eq_ok_iff, check_bind_eq_ok_iff]
  simp [eq_comm]

theorem planPage_eq_ok_iff {page rows : UInt64} {positions : Request.Page} :
    compiler.planPage request page rows = .ok positions ↔
      request.checkCommon compiler.setting = .ok () ∧ request.checkFields = .ok () ∧
        request.checkOrder = .ok () ∧ Request.resolvePage page rows = .ok positions := by
  simp only [planPage, check_bind_eq_ok_iff]

theorem compile_batchQuery_eq_ok_iff {page rows : UInt64} :
    compiler.compile configuration (.batchQuery page rows) request = .ok statements ↔
      ∃ dialect positions, compiler.dialect = some dialect ∧
        compiler.planPage request page rows = .ok positions ∧
        statements = [pageStatement dialect request rows positions] := by
  rw [compile, batchQuery]
  cases compiler.dialect with
  | none => simp
  | some dialect =>
      rw [bind_eq_ok_iff]
      simp [eq_comm]

/--
An operation that only selects or deletes rows is one statement of that kind,
with the filter that is the condition of the operation.
-/
theorem exists_statement_of_isPlain {operation : Operation} (plain : operation.isPlain = true)
    (compiled : compiler.compile configuration operation request = .ok statements) :
    ∃ statement, statements = [statement] ∧ statement.isPlain = true ∧
      statement.filter? = operation.condition request := by
  cases operation with
  | count scope =>
      obtain ⟨-, rfl⟩ := compile_count_eq_ok_iff.mp compiled
      exact ⟨_, rfl, rfl, rfl⟩
  | anyRow =>
      obtain ⟨-, rfl⟩ := compile_anyRow_eq_ok_iff.mp compiled
      exact ⟨_, rfl, rfl, rfl⟩
  | aggregate function field scope =>
      obtain ⟨-, rfl⟩ := compile_aggregate_eq_ok_iff.mp compiled
      exact ⟨_, rfl, rfl, rfl⟩
  | delete scope =>
      obtain ⟨-, rfl⟩ := compile_delete_eq_ok_iff.mp compiled
      exact ⟨_, rfl, rfl, rfl⟩
  | query top =>
      obtain ⟨-, -, rfl⟩ := query_eq_ok_iff.mp compiled
      exact ⟨_, rfl, rfl, rfl⟩
  | queryAll =>
      obtain ⟨-, -, rfl⟩ := query_eq_ok_iff.mp compiled
      exact ⟨_, rfl, rfl, rfl⟩
  | batchQuery page rows =>
      obtain ⟨dialect, positions, -, -, rfl⟩ := compile_batchQuery_eq_ok_iff.mp compiled
      cases dialect <;> exact ⟨_, rfl, rfl, rfl⟩
  | truncate | insert extent | update extent | merge extent => cases plain

theorem planInsert_eq_ok_iff {plan : InsertPlan} :
    compiler.planInsert configuration request extent = .ok plan ↔
      request.checkCommon compiler.setting = .ok () ∧
        extent.check request compiler.setting = .ok () ∧ request.checkFields = .ok () ∧
        request.checkMapping compiler.setting = .ok () ∧
        request.insertableFields compiler.setting = .ok plan.fields ∧
        compiler.reportedKey configuration request = .ok plan.key := by
  obtain ⟨fields, key⟩ := plan
  simp only [planInsert, check_bind_eq_ok_iff]
  simp only [bind_eq_ok_iff]
  simp

theorem planMerge_eq_ok_iff {plan : MergePlan} :
    compiler.planMerge configuration request extent = .ok plan ↔
      request.checkCommon compiler.setting = .ok () ∧
        extent.check request compiler.setting = .ok () ∧ request.checkFields = .ok () ∧
        request.checkMapping compiler.setting = .ok () ∧
        plan.parts.fields = request.fields ∧
        request.resolveQualifiers compiler.setting = .ok plan.parts.qualifiers ∧
        request.insertableFields compiler.setting = .ok plan.parts.insertable ∧
        plan.parts.updatable =
          request.updatableFields compiler.setting plan.parts.qualifiers ∧
        compiler.reportedKey configuration request = .ok plan.key := by
  simp only [planMerge, check_bind_eq_ok_iff]
  simp only [bind_eq_ok_iff]
  constructor
  · rintro ⟨common, batch, fields, mapping, qualifiers, resolved, insertable, kept, key,
      reported, equal⟩
    cases equal
    exact ⟨common, batch, fields, mapping, rfl, resolved, kept, rfl, reported⟩
  · obtain ⟨⟨fields, qualifiers, insertable, updatable⟩, key⟩ := plan
    rintro ⟨common, batch, notEmpty, mapping, sameFields, resolved, kept, updated, reported⟩
    dsimp only at sameFields updated
    subst sameFields updated
    exact ⟨common, batch, notEmpty, mapping, qualifiers, resolved, insertable, kept, key,
      reported, rfl⟩

theorem planFilteredUpdate_eq_ok_iff {filter : Filter} {plan : UpdatePlan} :
    compiler.planFilteredUpdate request filter = .ok plan ↔
      request.someUpdatableFields compiler.setting [] = .ok plan.fields ∧
        plan.condition = .filter filter.forUpdate := by
  simp only [planFilteredUpdate, bind_eq_ok_iff]
  constructor
  · rintro ⟨fields, kept, equal⟩
    cases equal
    exact ⟨kept, rfl⟩
  · obtain ⟨fields, condition⟩ := plan
    rintro ⟨kept, rfl⟩
    exact ⟨fields, kept, rfl⟩

theorem planQualifiedUpdate_eq_ok_iff {plan : UpdatePlan} :
    compiler.planQualifiedUpdate request = .ok plan ↔
      ∃ qualifiers, request.resolveQualifiers compiler.setting = .ok qualifiers ∧
        request.someUpdatableFields compiler.setting qualifiers = .ok plan.fields ∧
        plan.condition = .qualifiers qualifiers := by
  simp only [planQualifiedUpdate, bind_eq_ok_iff]
  constructor
  · rintro ⟨qualifiers, resolved, fields, kept, equal⟩
    cases equal
    exact ⟨qualifiers, resolved, kept, rfl⟩
  · obtain ⟨fields, condition⟩ := plan
    rintro ⟨qualifiers, resolved, kept, rfl⟩
    exact ⟨qualifiers, resolved, fields, kept, rfl⟩

theorem planUpdate_eq_ok_iff {plan : UpdatePlan} :
    compiler.planUpdate request extent = .ok plan ↔
      request.checkCommon compiler.setting = .ok () ∧
        extent.check request compiler.setting = .ok () ∧ request.checkFields = .ok () ∧
        match heededFilter request extent with
        | some filter => compiler.planFilteredUpdate request filter = .ok plan
        | none => compiler.planQualifiedUpdate request = .ok plan := by
  simp only [planUpdate, check_bind_eq_ok_iff]
  cases extent with
  | batch => rfl
  | oneRow => cases effective : request.effectiveFilter <;> simp [heededFilter, effective]

theorem compile_insert_eq_ok_iff :
    compiler.compile configuration (.insert extent) request = .ok statements ↔
      ∃ plan, compiler.planInsert configuration request extent = .ok plan ∧
        statements = compiler.insertStatements request.target plan (extent.rows request) := by
  rw [compile, insert_eq, bind_eq_ok_iff]
  simp [eq_comm]

theorem compile_update_eq_ok_iff :
    compiler.compile configuration (.update extent) request = .ok statements ↔
      ∃ plan, compiler.planUpdate request extent = .ok plan ∧
        statements = (List.range (extent.rows request)).map (updateRow request.target plan) := by
  rw [compile, update, bind_eq_ok_iff]
  simp [eq_comm]

theorem compile_merge_eq_ok_iff :
    compiler.compile configuration (.merge extent) request = .ok statements ↔
      ∃ dialect plan, compiler.dialect = some dialect ∧
        compiler.planMerge configuration request extent = .ok plan ∧
        statements = (List.range (extent.rows request)).flatMap
          (mergeRow compiler.setting dialect request.target plan (1 < extent.rows request)) := by
  rw [compile, merge]
  cases compiler.dialect with
  | none => simp
  | some dialect =>
      rw [bind_eq_ok_iff]
      simp [eq_comm]

/-- The text of a compiled request is its words with one space between them. -/
theorem text_eq_map_joined {operation : Operation} :
    compiler.text configuration operation request =
      (compiler.compile configuration operation request).map fun statements =>
        StatementText.joined (Statement.allWords compiler.setting statements) := by
  simp only [← Statement.finished_allWords]
  rw [Compiler.text]
  cases compiler.compile configuration operation request <;> rfl

theorem text_eq_ok_iff {operation : Operation} {text : String} :
    compiler.text configuration operation request = .ok text ↔
      ∃ statements, compiler.compile configuration operation request = .ok statements ∧
        text = (compiler.written statements).finished := by
  rw [Compiler.text, bind_eq_ok_iff]
  simp [eq_comm]

end Compiler

end SqlCompiler
