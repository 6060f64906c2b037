import Mathlib.Logic.Relation
import SqlCompiler.Proofs.Compiler.Session
import SqlCompiler.Proofs.Compiler.WrittenConditions
import SqlCompiler.Proofs.Text.Trimming

/-!
# Requests in normal form

A request can say the same in several ways.  A batch of no rows counts as one,
space around hints and hints of nothing else are not heeded, nor is a filter
without a comparator, nor a row limit of zero.  Checks, plans and clauses each
keep to these conventions on their own, and one that did not would let a
request be refused or written in another way than its twin.

A request in normal form makes no use of them.  It compiles to the statements
of the request that it was made from, with the targets in normal form, and a
target is spelled as its normal form is.  Rewording a request by a convention
keeps its normal form; so no rewording shows, and none of several either.
-/

namespace SqlCompiler

variable {compiler : Compiler} {configuration : Configuration} {request : Request}
  {setting : Setting}

/-! ## Normal forms -/

/-- Hints without space around them, or none if they are blank. -/
def Clause.normalHints (hints : Option String) : Option String :=
  match hints with
  | some text => if Text.isBlank text then none else some (Text.trim text)
  | none => none

def Target.normalized (target : Target) : Target :=
  { target with hints := Clause.normalHints target.hints }

def Request.normalized (request : Request) : Request :=
  { request with
    batchSize := request.rows
    hints := Clause.normalHints request.hints
    filter := request.effectiveFilter }

def Operation.normalized : Operation → Operation
  | .query top => .query (Compiler.queryLimit top)
  | operation => operation

/-- The statement with another target, if it has one. -/
def Statement.mapTarget (change : Target → Target) : Statement → Statement
  | .select selection target filter order top window =>
      .select selection (change target) filter order top window
  | .selectPage fields target filter order page =>
      .selectPage fields (change target) filter order page
  | .delete target filter => .delete (change target) filter
  | .insert target fields row report => .insert (change target) fields row report
  | .insertRows target fields rows report => .insertRows (change target) fields rows report
  | .update target fields row condition => .update (change target) fields row condition
  | .merge target parts row report => .merge (change target) parts row report
  | .upsert target parts row rule report => .upsert (change target) parts row rule report
  | .selectKey report => .selectKey report
  | .truncate table => .truncate table
  | .vacuum => .vacuum

/-- The statements with their targets in normal form. -/
def Statement.normalTargets (statements : List Statement) : List Statement :=
  statements.map (mapTarget Target.normalized)

/-! ## Hints -/

namespace Clause

/-- Hints are written in their normal form. -/
theorem hints_eq_toList (given : Option String) : hints given = (normalHints given).toList := by
  cases given with
  | none => rfl
  | some text => cases blank : Text.isBlank text <;> simp [hints, normalHints, blank]

theorem normalHints_of_blank {text : String} (blank : Text.isBlank text = true) :
    normalHints (some text) = none := by
  simp [normalHints, blank]

theorem normalHints_trim (text : String) :
    normalHints (some (Text.trim text)) = normalHints (some text) := by
  cases blank : Text.isBlank text <;> simp [normalHints, blank]

@[simp]
theorem normalHints_normalHints (given : Option String) :
    normalHints (normalHints given) = normalHints given := by
  cases given with
  | none => rfl
  | some text => cases blank : Text.isBlank text <;> simp [normalHints, blank]

end Clause

theorem Target.words_normalized (target : Target) :
    target.normalized.words setting = target.words setting := by
  rw [words, words, Clause.hints_eq_toList, Clause.hints_eq_toList, normalized,
    Clause.normalHints_normalHints]

namespace Statement

/-- A statement is spelled by the spelling of its target. -/
theorem words_mapTarget {change : Target → Target}
    (alike : ∀ target, (change target).words setting = target.words setting)
    (statement : Statement) : (statement.mapTarget change).words setting =
      statement.words setting := by
  cases statement <;>
    simp only [mapTarget, words, body, insertWords, insertRowsWords, selectPageWords, mergeWords,
      alike]

theorem allWords_normalTargets (statements : List Statement) :
    allWords setting (normalTargets statements) = allWords setting statements := by
  rw [allWords, normalTargets, List.flatMap_map]
  exact List.flatMap_congr fun statement _ => words_mapTarget Target.words_normalized statement

/-- Statements that are in normal form row by row are so together. -/
theorem flatMap_normalTargets {normal given : Nat → List Statement} (rows : List Nat)
    (each : ∀ row, normal row = normalTargets (given row)) :
    rows.flatMap normal = normalTargets (rows.flatMap given) := by
  rw [normalTargets, List.map_flatMap]
  exact List.flatMap_congr fun row _ => each row

end Statement

/-! ## Checks and plans -/

namespace Request

theorem rows_normalized : request.normalized.rows = request.rows := by
  simp only [normalized, rows]
  omega

theorem hasHints_normalized : request.normalized.hasHints = request.hasHints := by
  cases given : request.hints with
  | none => simp [hasHints, normalized, given, Clause.normalHints]
  | some text =>
      cases blank : Text.isBlank text <;>
        simp [hasHints, normalized, given, Clause.normalHints, blank]

@[simp]
theorem effectiveFilter_normalized :
    request.normalized.effectiveFilter = request.effectiveFilter := by
  simp [effectiveFilter, normalized]

@[simp]
theorem checkCommon_normalized :
    request.normalized.checkCommon setting = request.checkCommon setting := by
  simp only [checkCommon, checkHints, hasHints_normalized]
  rfl

@[simp]
theorem checkNoHints_normalized : request.normalized.checkNoHints = request.checkNoHints := by
  simp only [checkNoHints, hasHints_normalized]

/-- A refused batch has more than one row, so its size is named as it was given. -/
theorem checkBatch_normalized :
    request.normalized.checkBatch setting = request.checkBatch setting := by
  by_cases several : 1 < request.rows
  · have given : request.normalized.batchSize = request.batchSize := by
      simp only [normalized, rows] at several ⊢
      omega
    simp only [checkBatch, rows_normalized, given]
  · simp only [checkBatch, rows_normalized, several, decide_false, Bool.false_and]
    rfl

end Request

@[simp]
theorem Extent.check_normalized (extent : Extent) :
    extent.check request.normalized setting = extent.check request setting := by
  cases extent with
  | oneRow => rfl
  | batch => exact Request.checkBatch_normalized

@[simp]
theorem Extent.rows_normalized (extent : Extent) :
    extent.rows request.normalized = extent.rows request := by
  cases extent with
  | oneRow => rfl
  | batch => exact Request.rows_normalized

theorem Scope.filter_normalized (scope : Scope) :
    scope.filter request.normalized = scope.filter request := by
  cases scope with
  | filtered => exact Request.effectiveFilter_normalized
  | allRows => rfl

namespace Compiler

@[simp]
theorem queryLimit_queryLimit (top : Option Nat) :
    queryLimit (queryLimit top) = queryLimit top := by
  simp [queryLimit]

@[simp]
theorem planPage_normalized (page rows : UInt64) :
    compiler.planPage request.normalized page rows = compiler.planPage request page rows := by
  simp only [planPage, Request.checkCommon_normalized]
  rfl

@[simp]
theorem planInsert_normalized (extent : Extent) :
    compiler.planInsert configuration request.normalized extent =
      compiler.planInsert configuration request extent := by
  simp only [planInsert, Request.checkCommon_normalized, Extent.check_normalized]
  rfl

@[simp]
theorem planMerge_normalized (extent : Extent) :
    compiler.planMerge configuration request.normalized extent =
      compiler.planMerge configuration request extent := by
  simp only [planMerge, Request.checkCommon_normalized, Extent.check_normalized]
  rfl

@[simp]
theorem planUpdate_normalized (extent : Extent) :
    compiler.planUpdate request.normalized extent = compiler.planUpdate request extent := by
  simp only [planUpdate, Request.checkCommon_normalized, Extent.check_normalized,
    Request.effectiveFilter_normalized]
  rfl

/-! ## Compiled statements -/

theorem insertRow_normalized (compiler : Compiler) (target : Target) (plan : InsertPlan)
    (batched : Bool) (row : Nat) :
    compiler.insertRow target.normalized plan batched row =
      Statement.normalTargets (compiler.insertRow target plan batched row) := by
  have behind : Statement.normalTargets (compiler.insertTail plan.key row batched).behind =
      (compiler.insertTail plan.key row batched).behind := by
    unfold insertTail
    split <;> rfl
  exact congrArg _ behind.symm

theorem mergeRow_normalized (dialect : Dialect) (target : Target) (plan : MergePlan)
    (batched : Bool) (row : Nat) :
    mergeRow setting dialect target.normalized plan batched row =
      Statement.normalTargets (mergeRow setting dialect target plan batched row) := by
  have readBack (function : String) :
      Statement.normalTargets (mergedKey setting function plan batched row) =
        mergedKey setting function plan batched row := by
    unfold mergedKey
    split <;> rfl
  cases dialect with
  | sqlServer | postgreSql => rfl
  | mySql | sqlite => exact congrArg _ (readBack _).symm

theorem pageStatement_normalized (dialect : Dialect) (rows : UInt64) (page : Request.Page) :
    pageStatement dialect request.normalized rows page =
      (pageStatement dialect request rows page).mapTarget Target.normalized := by
  cases dialect <;> simp only [pageStatement, Request.effectiveFilter_normalized] <;> rfl

theorem compile_normalized (operation : Operation) :
    compiler.compile configuration operation.normalized request.normalized =
      Statement.normalTargets <$> compiler.compile configuration operation request := by
  cases operation with
  | count scope =>
      simp only [Operation.normalized, compile, count, countStatement, selectExpression,
        Request.checkCommon_normalized, Scope.filter_normalized, map_bind]
      rfl
  | anyRow =>
      simp only [Operation.normalized, compile, anyRow, anyRowStatement,
        Request.checkCommon_normalized, Request.effectiveFilter_normalized, map_bind]
      rfl
  | aggregate function field scope =>
      simp only [Operation.normalized, compile, aggregate, aggregateStatement, selectExpression,
        Request.checkCommon_normalized, Scope.filter_normalized, map_bind]
      rfl
  | delete scope =>
      simp only [Operation.normalized, compile, delete, deleteStatement,
        Request.checkCommon_normalized, Scope.filter_normalized, map_bind]
      rfl
  | truncate =>
      simp only [Operation.normalized, compile, truncate_eq, truncateStatements,
        Request.checkCommon_normalized, Request.checkNoHints_normalized, map_bind]
      -- The deletion on SQLite has no hints, so its target is in normal form.
      cases compiler.dialect with
      | none => rfl
      | some dialect => cases dialect <;> rfl
  | insert extent =>
      simp only [Operation.normalized, compile, insert_eq, planInsert_normalized,
        Extent.rows_normalized, map_bind]
      refine congrArg _ (funext fun plan => congrArg Except.ok ?_)
      unfold insertStatements
      split
      · rfl
      · exact Statement.flatMap_normalTargets _
          (compiler.insertRow_normalized request.target plan _)
  | update extent =>
      simp only [Operation.normalized, compile, update, planUpdate_normalized,
        Extent.rows_normalized, map_bind]
      refine congrArg _ (funext fun plan => congrArg Except.ok ?_)
      rw [Statement.normalTargets, List.map_map]
      rfl
  | query top =>
      simp only [Operation.normalized, compile, query, queryStatement, queryLimit_queryLimit,
        Request.checkCommon_normalized, Scope.filter_normalized, map_bind]
      rfl
  | queryAll =>
      simp only [Operation.normalized, compile, query, queryStatement,
        Request.checkCommon_normalized, Scope.filter_normalized, map_bind]
      rfl
  | batchQuery page rows =>
      simp only [Operation.normalized, compile, batchQuery]
      cases compiler.dialect with
      | none => rfl
      | some dialect =>
          simp only [planPage_normalized, pageStatement_normalized, map_bind]
          rfl
  | merge extent =>
      simp only [Operation.normalized, compile, merge]
      cases compiler.dialect with
      | none => rfl
      | some dialect =>
          simp only [planMerge_normalized, Extent.rows_normalized, map_bind]
          refine congrArg _ (funext fun plan => congrArg Except.ok ?_)
          exact Statement.flatMap_normalTargets _
            (mergeRow_normalized dialect request.target plan _)

theorem textOver_normalized (operation : Operation) (before : StatementText) :
    compiler.textOver configuration operation.normalized request.normalized before =
      compiler.textOver configuration operation request before := by
  rw [textOver_eq_compile, textOver_eq_compile, compile_normalized]
  cases compiler.compile configuration operation request with
  | error error => rfl
  | ok statements =>
      have spelled : compiler.written (Statement.normalTargets statements) =
          compiler.written statements := by
        rw [written, written, Statement.allWords_normalTargets]
      exact congrArg (fun text : StatementText => (Except.ok text.finished, text)) spelled

end Compiler

/-! ## Rewordings -/

namespace Request

/-- One rewording of an operation and its request, by one of the conventions. -/
inductive Rewords : Operation × Request → Operation × Request → Prop where
  | oneRow {operation : Operation} {request : Request} (noRows : request.batchSize = 0) :
      Rewords (operation, request) (operation, { request with batchSize := 1 })
  | trimHints {operation : Operation} {request : Request} {text : String}
      (given : request.hints = some text) :
      Rewords (operation, request) (operation, { request with hints := some (Text.trim text) })
  | dropHints {operation : Operation} {request : Request} {text : String}
      (given : request.hints = some text) (blank : Text.isBlank text = true) :
      Rewords (operation, request) (operation, { request with hints := none })
  | dropFilter {operation : Operation} {request : Request} {tree : Filter}
      (given : request.filter = some tree) (empty : tree.comparators = []) :
      Rewords (operation, request) (operation, { request with filter := none })
  | dropTop {request : Request} : Rewords (.query (some 0), request) (.query none, request)

/-- Any number of rewordings, one after the other. -/
abbrev Rewordings : Operation × Request → Operation × Request → Prop :=
  Relation.ReflTransGen Rewords

/-- The normal forms of an operation and its request. -/
def normalForm : Operation × Request → Operation × Request :=
  Prod.map Operation.normalized Request.normalized

variable {first second : Operation × Request}

theorem Rewords.normalForm_eq (reworded : Rewords first second) :
    normalForm second = normalForm first := by
  cases reworded with
  | oneRow noRows =>
      simp only [normalForm, Prod.map_apply, normalized, rows, noRows]
      rfl
  | trimHints given =>
      simp only [normalForm, Prod.map_apply, normalized, given, Clause.normalHints_trim]
      rfl
  | dropHints given blank =>
      simp only [normalForm, Prod.map_apply, normalized, given, Clause.normalHints_of_blank blank]
      rfl
  | @dropFilter _ request tree given empty =>
      have unheeded : request.effectiveFilter = none := by
        simp [effectiveFilter_eq_none_iff, given, empty]
      simp only [normalForm, Prod.map_apply, normalized, unheeded]
      rfl
  | dropTop => rfl

theorem Rewordings.normalForm_eq (reworded : Rewordings first second) :
    normalForm second = normalForm first := by
  induction reworded with
  | refl => rfl
  | tail _ step ih => rw [step.normalForm_eq, ih]

/-! One rewording is enough for each of the conventions. -/

theorem rewordings_rows (operation : Operation) (request : Request) :
    Rewordings (operation, request) (operation, { request with batchSize := request.rows }) := by
  by_cases noRows : request.batchSize = 0
  · have one : request.rows = 1 := by simp only [rows, noRows, Nat.zero_max]
    rw [one]
    exact .single (.oneRow noRows)
  · have same : request.rows = request.batchSize := by
      simp only [rows]
      omega
    rw [same]

theorem rewordings_hints (operation : Operation) (request : Request) :
    Rewordings (operation, request)
      (operation, { request with hints := Clause.normalHints request.hints }) := by
  cases given : request.hints with
  | none => rw [Clause.normalHints, ← given]
  | some text =>
      cases blank : Text.isBlank text with
      | true =>
          rw [Clause.normalHints_of_blank blank]
          exact .single (.dropHints given blank)
      | false =>
          rw [Clause.normalHints, blank]
          exact .single (.trimHints given)

theorem rewordings_filter (operation : Operation) (request : Request) :
    Rewordings (operation, request)
      (operation, { request with filter := request.effectiveFilter }) := by
  cases effective : request.effectiveFilter with
  | some tree => rw [← (effectiveFilter_eq_some_iff.mp effective).1]
  | none =>
      cases given : request.filter with
      | none => rw [← given]
      | some tree =>
          have empty := effectiveFilter_eq_none_iff.mp effective tree given
          exact .single (.dropFilter given empty)

theorem rewordings_top (operation : Operation) (request : Request) :
    Rewordings (operation, request) (operation.normalized, request) := by
  cases operation with
  | query top =>
      match top with
      | none | some (_ + 1) => exact .refl
      | some 0 => exact .single .dropTop
  | _ => exact .refl

/-- Every request can be reworded into its normal form. -/
theorem rewordings_normalForm (operation : Operation) (request : Request) :
    Rewordings (operation, request) (normalForm (operation, request)) :=
  (rewordings_rows operation request).trans <|
    (rewordings_hints operation _).trans <|
      (rewordings_filter operation _).trans <|
        rewordings_top operation _

end Request

namespace Compiler

/--
However often a request is reworded, it gives the same text or the same refusal,
and all conventions together can be reworded away.
-/
theorem rewordings_never_show (compiler : Compiler) (configuration : Configuration) :
    (∀ first second : Operation × Request, Request.Rewordings first second → ∀ before,
      compiler.textOver configuration second.1 second.2 before =
        compiler.textOver configuration first.1 first.2 before) ∧
    ∀ operation request,
      Request.Rewordings (operation, request) (operation.normalized, request.normalized) := by
  refine ⟨fun first second reworded before => ?_, Request.rewordings_normalForm⟩
  have operations : second.1.normalized = first.1.normalized :=
    congrArg Prod.fst reworded.normalForm_eq
  have requests : second.2.normalized = first.2.normalized :=
    congrArg Prod.snd reworded.normalForm_eq
  rw [← textOver_normalized, operations, requests, textOver_normalized]

/-- A request that makes use of every convention. -/
def looseRequest : Request where
  table := "Item"
  fields := [{ name := "Id" }, { name := "Name" }]
  filter := some { items := .group .or true .nil .nil }
  batchSize := 0
  hints := some " WITH (NOLOCK)\t"

theorem rewordings_never_show_looseRequest :
    (looseRequest.normalized.batchSize = 1 ∧
        looseRequest.normalized.hints = some "WITH (NOLOCK)" ∧
        looseRequest.normalized.filter.isNone = true) ∧
      Request.Rewordings (.query (some 0), looseRequest) (.query none, looseRequest.normalized) ∧
      (Dialect.sqlServer.compiler.textOver .initial (.query (some 0)) looseRequest {}).1 =
        .ok "SELECT [Id], [Name] FROM [Item] WITH (NOLOCK) ;" ∧
      Dialect.sqlServer.compiler.textOver .initial (.query none) looseRequest.normalized {} =
        Dialect.sqlServer.compiler.textOver .initial (.query (some 0)) looseRequest {} := by
  obtain ⟨never, normal⟩ := rewordings_never_show Dialect.sqlServer.compiler .initial
  have reworded := normal (.query (some 0)) looseRequest
  exact ⟨⟨rfl, by decide +kernel, rfl⟩, reworded, by decide +kernel, never _ _ reworded {}⟩

end Compiler

end SqlCompiler
