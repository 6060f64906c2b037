import SqlCompiler.Proofs.Compiler.Session

/-!
# Filters that are not heeded

An operation that does not heed the filter of its request must not let anything
of it through, neither into a text nor into a refusal.  No check looks at the
filter, and no plan does but that of an update of one row; so two requests that
differ in nothing else are compiled alike.  An operation for all rows has a twin
that heeds the filter, and does what its twin does for the request without it.
-/

namespace SqlCompiler

/-- The request without its filter. -/
def Request.unfiltered (request : Request) : Request :=
  { request with filter := none }

/-- An operation for all rows, and the one that selects its rows by the filter. -/
inductive Operation.Twins : Operation → Operation → Prop where
  | count : Twins (.count .allRows) (.count .filtered)
  | aggregate (function : Aggregate) (field : Field) :
      Twins (.aggregate function field .allRows) (.aggregate function field .filtered)
  | delete : Twins (.delete .allRows) (.delete .filtered)
  | query : Twins .queryAll (.query none)

variable {compiler : Compiler} {configuration : Configuration} {request : Request}
  {setting : Setting}

namespace Request

@[simp]
theorem effectiveFilter_unfiltered : request.unfiltered.effectiveFilter = none :=
  rfl

@[simp]
theorem target_unfiltered : request.unfiltered.target = request.target :=
  rfl

/-! The checks look at other parts of the request. -/

@[simp]
theorem checkCommon_unfiltered :
    request.unfiltered.checkCommon setting = request.checkCommon setting :=
  rfl

@[simp]
theorem checkNoHints_unfiltered : request.unfiltered.checkNoHints = request.checkNoHints :=
  rfl

@[simp]
theorem checkFields_unfiltered : request.unfiltered.checkFields = request.checkFields :=
  rfl

@[simp]
theorem checkMapping_unfiltered :
    request.unfiltered.checkMapping setting = request.checkMapping setting :=
  rfl

@[simp]
theorem resolveQualifiers_unfiltered :
    request.unfiltered.resolveQualifiers setting = request.resolveQualifiers setting :=
  rfl

@[simp]
theorem insertableFields_unfiltered :
    request.unfiltered.insertableFields setting = request.insertableFields setting :=
  rfl

@[simp]
theorem someUpdatableFields_unfiltered (qualifiers : List Field) :
    request.unfiltered.someUpdatableFields setting qualifiers =
      request.someUpdatableFields setting qualifiers :=
  rfl

end Request

@[simp]
theorem Extent.check_unfiltered (extent : Extent) :
    extent.check request.unfiltered setting = extent.check request setting := by
  cases extent <;> rfl

@[simp]
theorem Extent.rows_unfiltered (extent : Extent) :
    extent.rows request.unfiltered = extent.rows request := by
  cases extent <;> rfl

namespace Compiler

/-! ## Plans -/

@[simp]
theorem planInsert_unfiltered (extent : Extent) :
    compiler.planInsert configuration request.unfiltered extent =
      compiler.planInsert configuration request extent := by
  simp only [planInsert, Request.checkCommon_unfiltered, Extent.check_unfiltered,
    Request.checkFields_unfiltered, Request.checkMapping_unfiltered,
    Request.insertableFields_unfiltered]
  rfl

@[simp]
theorem planMerge_unfiltered (extent : Extent) :
    compiler.planMerge configuration request.unfiltered extent =
      compiler.planMerge configuration request extent := by
  simp only [planMerge, Request.checkCommon_unfiltered, Extent.check_unfiltered,
    Request.checkFields_unfiltered, Request.checkMapping_unfiltered,
    Request.resolveQualifiers_unfiltered, Request.insertableFields_unfiltered]
  rfl

@[simp]
theorem planQualifiedUpdate_unfiltered :
    compiler.planQualifiedUpdate request.unfiltered = compiler.planQualifiedUpdate request := by
  simp only [planQualifiedUpdate, Request.resolveQualifiers_unfiltered,
    Request.someUpdatableFields_unfiltered]

/-- A batch is matched by its qualifiers, whatever the filter is. -/
@[simp]
theorem planUpdate_batch_unfiltered :
    compiler.planUpdate request.unfiltered .batch = compiler.planUpdate request .batch := by
  simp only [planUpdate, Request.checkCommon_unfiltered, Extent.check_unfiltered,
    Request.checkFields_unfiltered, planQualifiedUpdate_unfiltered]

/-! ## Compiled statements -/

/-- Only an operation that heeds the filter can be compiled differently without it. -/
theorem compile_unfiltered {operation : Operation}
    (unheeding : operation.kind.heedsFilter = false) :
    compiler.compile configuration operation request.unfiltered =
      compiler.compile configuration operation request := by
  cases operation with
  | count scope =>
      cases scope with
      | filtered => cases unheeding
      | allRows => rfl
  | aggregate function field scope =>
      cases scope with
      | filtered => cases unheeding
      | allRows => rfl
  | delete scope =>
      cases scope with
      | filtered => cases unheeding
      | allRows => rfl
  | update extent =>
      cases extent with
      | oneRow => cases unheeding
      | batch =>
          simp only [compile, update, planUpdate_batch_unfiltered, Extent.rows_unfiltered,
            Request.target_unfiltered]
  | anyRow | query | batchQuery => cases unheeding
  | truncate =>
      simp only [compile, truncate_eq, Request.checkCommon_unfiltered,
        Request.checkNoHints_unfiltered, truncateStatements]
      rfl
  | insert extent =>
      simp only [compile, insert_eq, planInsert_unfiltered, Extent.rows_unfiltered,
        Request.target_unfiltered]
  | queryAll => rfl
  | merge extent =>
      simp only [compile, merge, planMerge_unfiltered, Extent.rows_unfiltered,
        Request.target_unfiltered]

theorem compile_of_twins {all filtered : Operation} (twins : Operation.Twins all filtered) :
    compiler.compile configuration all request =
      compiler.compile configuration filtered request.unfiltered := by
  cases twins with
  | count =>
      simp only [compile, count, countStatement, selectExpression,
        Request.effectiveFilter_unfiltered, Request.checkCommon_unfiltered,
        Request.target_unfiltered, Scope.filter]
  | aggregate function field =>
      simp only [compile, aggregate, aggregateStatement, selectExpression,
        Request.effectiveFilter_unfiltered, Request.checkCommon_unfiltered,
        Request.target_unfiltered, Scope.filter]
  | delete =>
      simp only [compile, delete, deleteStatement, Request.effectiveFilter_unfiltered,
        Request.checkCommon_unfiltered, Request.target_unfiltered, Scope.filter]
  | query =>
      simp only [compile, query, queryStatement, Request.effectiveFilter_unfiltered,
        Request.checkCommon_unfiltered, Request.checkFields_unfiltered, Request.target_unfiltered,
        Scope.filter]
      rfl

/--
No filter shows where it is not heeded: an operation for all rows gives what its
twin gives without the filter, and requests that differ in nothing but a filter
that is not heeded give the same text or the same refusal.
-/
theorem unheeded_filter_never_shows (compiler : Compiler) (configuration : Configuration) :
    (∀ all filtered, Operation.Twins all filtered → ∀ request before,
      compiler.textOver configuration all request before =
        compiler.textOver configuration filtered request.unfiltered before) ∧
    ∀ operation : Operation, operation.kind.heedsFilter = false → ∀ first second : Request,
      first.unfiltered = second.unfiltered → ∀ before,
        compiler.textOver configuration operation first before =
          compiler.textOver configuration operation second before := by
  constructor
  · intro all filtered twins request before
    rw [textOver_eq_compile, textOver_eq_compile, compile_of_twins twins]
  · intro operation unheeding first second same before
    have compiled : compiler.compile configuration operation first =
        compiler.compile configuration operation second := by
      rw [← compile_unfiltered unheeding, same, compile_unfiltered unheeding]
    rw [textOver_eq_compile, textOver_eq_compile, compiled]

/-- A request for one kept item. -/
def keptItem : Request where
  table := "Item"
  fields := [{ name := "Id" }, { name := "Name" }]
  filter := some (.all [.literal "[Kept] = 1"])

theorem unheeded_filter_never_shows_keptItem :
    Dialect.sqlServer.compiler.textOver .initial (.delete .filtered) keptItem {} ≠
        Dialect.sqlServer.compiler.textOver .initial (.delete .allRows) keptItem {} ∧
      Dialect.sqlServer.compiler.textOver .initial (.delete .allRows) keptItem {} =
        Dialect.sqlServer.compiler.textOver .initial (.delete .filtered) keptItem.unfiltered {} ∧
      Dialect.sqlServer.compiler.textOver .initial .truncate keptItem {} =
        Dialect.sqlServer.compiler.textOver .initial .truncate keptItem.unfiltered {} := by
  obtain ⟨twins, unheeding⟩ := unheeded_filter_never_shows Dialect.sqlServer.compiler .initial
  refine ⟨?_, twins _ _ .delete keptItem {}, unheeding .truncate rfl _ _ rfl {}⟩
  intro same
  have texts := congrArg Prod.fst same
  revert texts
  decide +kernel

end Compiler

end SqlCompiler
