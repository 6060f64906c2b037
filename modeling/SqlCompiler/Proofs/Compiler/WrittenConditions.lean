import SqlCompiler.Proofs.Compiler.Plan
import SqlCompiler.Proofs.Filter.EmptyGroups
import SqlCompiler.Proofs.Filter.Underscore

/-!
# Which rows a statement means

An update or a deletion without a condition means every row of its table, so
what matters is that no condition gets lost.  The condition of a filter is
written directly behind the target exactly if the filter holds a comparator,
at whatever depth, and nothing else in the text depends on the filter.  An
update has a condition in any case: a filter that holds a comparator, else its
qualifiers, of which there is at least one.
-/

namespace SqlCompiler

namespace Filter

theorem comparators_forUpdate_ne_nil {filter : Filter} (holds : filter.comparators ≠ []) :
    filter.forUpdate.comparators ≠ [] := by
  rw [comparators, forUpdate, FilterItems.comparators_mapComparators, ne_eq,
    List.map_eq_nil_iff]
  exact holds

end Filter

namespace Request

theorem effectiveFilter_eq_some_iff {request : Request} {tree : Filter} :
    request.effectiveFilter = some tree ↔
      request.filter = some tree ∧ tree.comparators ≠ [] := by
  rw [effectiveFilter, Option.filter_eq_some_iff, Bool.not_eq_true',
    Filter.isEmpty_eq_false_iff]

theorem effectiveFilter_eq_none_iff {request : Request} :
    request.effectiveFilter = none ↔
      ∀ tree, request.filter = some tree → tree.comparators = [] := by
  rw [Option.eq_none_iff_forall_ne_some]
  simp only [ne_eq, effectiveFilter_eq_some_iff, not_and, not_not]

end Request

/-- The words in which a filter is a condition; its predicate is not empty. -/
inductive WrittenFilter (setting : Setting) : Option Filter → List String → Prop where
  | noFilter : WrittenFilter setting none []
  | noComparator {filter : Filter} (empty : filter.comparators = []) :
      WrittenFilter setting (some filter) []
  | comparators {filter : Filter} (holds : filter.comparators ≠ [])
      (predicate : filter.text setting 0 ≠ "") :
      WrittenFilter setting (some filter) ["WHERE", filter.text setting 0]

theorem writtenFilter_effectiveFilter (setting : Setting) (request : Request) :
    WrittenFilter setting request.filter
      (Clause.condition setting request.effectiveFilter 0) := by
  cases effective : request.effectiveFilter with
  | some tree =>
      obtain ⟨given, holds⟩ := Request.effectiveFilter_eq_some_iff.mp effective
      have notEmpty := Filter.isEmpty_eq_false_iff.mpr holds
      rw [given, Clause.condition, notEmpty]
      exact .comparators holds (Filter.text_ne_empty holds setting 0)
  | none =>
      have empty := Request.effectiveFilter_eq_none_iff.mp effective
      cases given : request.filter with
      | none => exact .noFilter
      | some tree => exact .noComparator (empty tree given)

namespace UpdateCondition

/-- What the rows of an update fulfil. -/
def predicate (condition : UpdateCondition) (setting : Setting) (row : Nat) : String :=
  match condition with
  | .filter tree => tree.text setting row
  | .qualifiers matched =>
      "(" ++ Clause.conjunctionList (matched.map (Clause.equation setting row)) ++ ")"

/--
The condition of an update: the filter under other parameter names where it is
heeded and holds a comparator, and the qualifiers anywhere else.
-/
inductive Decided (setting : Setting) (request : Request) : Extent → UpdateCondition → Prop where
  | filter {tree : Filter} (given : request.filter = some tree)
      (holds : tree.comparators ≠ []) :
      Decided setting request .oneRow (.filter tree.forUpdate)
  | qualifiers {extent : Extent} {qualifiers : List Field}
      (unfiltered : extent = .oneRow →
        ∀ tree, request.filter = some tree → tree.comparators = [])
      (resolved : request.resolveQualifiers setting = .ok qualifiers)
      (nonempty : qualifiers ≠ []) :
      Decided setting request extent (.qualifiers qualifiers)

variable {setting : Setting} {request : Request} {extent : Extent} {condition : UpdateCondition}

theorem Decided.predicate_ne_empty (decided : Decided setting request extent condition)
    (row : Nat) : condition.predicate setting row ≠ "" := by
  cases decided with
  | filter given holds =>
      exact Filter.text_ne_empty (Filter.comparators_forUpdate_ne_nil holds) setting row
  | qualifiers unfiltered resolved nonempty => simp [predicate]

theorem Decided.words_eq (decided : Decided setting request extent condition) (row : Nat) :
    condition.words setting row = ["WHERE", condition.predicate setting row] := by
  cases decided with
  | filter given holds =>
      have notEmpty := Filter.isEmpty_eq_false_iff.mpr (Filter.comparators_forUpdate_ne_nil holds)
      simp [words, Clause.condition, notEmpty, predicate]
  | qualifiers unfiltered resolved nonempty =>
      simp [words, Clause.equalities, nonempty, predicate]

end UpdateCondition

def Statement.updates : Statement → Bool
  | .update _ _ _ _ => true
  | _ => false

namespace Compiler

variable {compiler : Compiler} {configuration : Configuration} {request : Request}
  {extent : Extent}

theorem decided_of_planUpdate {plan : UpdatePlan}
    (planned : compiler.planUpdate request extent = .ok plan) :
    plan.condition.Decided compiler.setting request extent := by
  obtain ⟨-, -, -, planned⟩ := planUpdate_eq_ok_iff.mp planned
  cases heeded : heededFilter request extent with
  | some tree =>
      rw [heeded] at planned
      obtain ⟨-, condition⟩ := planFilteredUpdate_eq_ok_iff.mp planned
      cases extent with
      | batch => cases heeded
      | oneRow =>
          obtain ⟨given, holds⟩ := Request.effectiveFilter_eq_some_iff.mp heeded
          rw [condition]
          exact .filter given holds
  | none =>
      rw [heeded] at planned
      obtain ⟨qualifiers, resolved, -, condition⟩ := planQualifiedUpdate_eq_ok_iff.mp planned
      rw [condition]
      refine .qualifiers ?_ resolved (Request.resolveQualifiers_ne_nil resolved)
      rintro rfl
      exact Request.effectiveFilter_eq_none_iff.mp heeded

/-- The words of an update of one row whose condition is a predicate. -/
def updateWords (setting : Setting) (target : Target) (fields : List Field) (row : Nat)
    (predicate : String) : List String :=
  ["UPDATE"] ++ target.words setting ++
    ["SET", Clause.assignmentList setting fields row, "WHERE", predicate, terminator]

/-- Every row of an update is written with the predicate that was decided on. -/
theorem allWords_update {plan : UpdatePlan}
    (decided : plan.condition.Decided compiler.setting request extent) (rows : Nat) :
    Statement.allWords compiler.setting
        ((List.range rows).map (updateRow request.target plan)) =
      (List.range rows).flatMap fun row =>
        updateWords compiler.setting request.target plan.fields row
          (plan.condition.predicate compiler.setting row) := by
  rw [Statement.allWords, List.flatMap_map]
  refine List.flatMap_congr fun row _ => ?_
  simp [updateRow, Statement.words, Statement.body, decided.words_eq row, updateWords]

/-- The operations that read or delete the rows that the filter accepts. -/
inductive FiltersRows : Operation → Prop where
  | count : FiltersRows (.count .filtered)
  | anyRow : FiltersRows .anyRow
  | aggregate (function : Aggregate) (field : Field) :
      FiltersRows (.aggregate function field .filtered)
  | delete : FiltersRows (.delete .filtered)
  | query (top : Option Nat) : FiltersRows (.query top)
  | batchQuery (page rows : UInt64) : FiltersRows (.batchQuery page rows)

/--
The words around the target and its condition: the target is what is read
from, and what comes next is no condition.  A page on SQL Server has them
inside its row source.
-/
structure Surrounds (compiler : Compiler) (operation : Operation) (front back : List String) :
    Prop where
  from_target : ["FROM"] <:+ front
  no_condition : ∃ next rest, back = next :: rest ∧ next ≠ "" ∧ next ≠ "WHERE"
  inside : compiler.dialect = some .sqlServer → operation.kind = .batchQuery →
    ["WITH", "CTE", "AS", "("] <+: front ∧ back.head? = some ")"

/-- The text of one statement with a clause between its target and what comes next. -/
def conditionedText (compiler : Compiler) (request : Request) (front clause back : List String) :
    String :=
  (StatementText.ofWords
    (front ++ request.target.words compiler.setting ++ clause ++ back)).finished

/--
An operation depends on the filter in one place only: it is refused with any
filter or with none, and its text has the condition of the filter directly
behind the target.
-/
def Conditioned (compiler : Compiler) (configuration : Configuration) (request : Request)
    (operation : Operation) : Prop :=
  (∃ error, ∀ filter,
    compiler.text configuration operation { request with filter } = .error error) ∨
  ∃ front back, compiler.Surrounds operation front back ∧
    ∀ filter, ∃ clause, WrittenFilter compiler.setting filter clause ∧
      compiler.text configuration operation { request with filter } =
        .ok (compiler.conditionedText request front clause back)

/-- Statements for all filters that differ in their conditions only. -/
def Varies (compiler : Compiler) (operation : Operation) (target : Target)
    (statement : Option Filter → Statement) : Prop :=
  ∃ front back, compiler.Surrounds operation front back ∧
    ∀ filter, (statement filter).words compiler.setting =
      front ++ target.words compiler.setting ++
        Clause.condition compiler.setting filter 0 ++ back

variable {operation : Operation}

/--
An operation is conditioned if it is compiled from a plan without the filter
to one statement that has the filter behind its target.
-/
theorem conditioned_of_plan {α : Type} (plan : Except CompileError α)
    {statement : α → Option Filter → Statement}
    (varies : ∀ value, compiler.Varies operation request.target (statement value))
    (compiled : ∀ filter, compiler.compile configuration operation { request with filter } =
      plan >>= fun value =>
        .ok [statement value ({ request with filter } : Request).effectiveFilter]) :
    compiler.Conditioned configuration request operation := by
  cases plan with
  | error error =>
      refine .inl ⟨error, fun filter => ?_⟩
      rw [Compiler.text, compiled filter]
      rfl
  | ok value =>
      obtain ⟨front, back, surrounds, words⟩ := varies value
      refine .inr ⟨front, back, surrounds, fun filter => ?_⟩
      refine ⟨_, writtenFilter_effectiveFilter compiler.setting { request with filter }, ?_⟩
      rw [Compiler.text, compiled filter, conditionedText, ← words]
      simp [bind, Except.bind, written]

theorem limit_append_ne (text : String) :
    "LIMIT " ++ text ≠ "" ∧ "LIMIT " ++ text ≠ "WHERE" := by
  refine ⟨by simp, fun equal => ?_⟩
  have characters := congrArg String.toList equal
  simp at characters

/-- Behind the condition of a selection come its order, its window or its end. -/
theorem exists_next_selection (order : List SortKey) (window : RowWindow) (setting : Setting) :
    ∃ next rest, Clause.order setting order ++ window.words ++ [terminator] = next :: rest ∧
      next ≠ "" ∧ next ≠ "WHERE" := by
  cases order with
  | cons key keys => exact ⟨"ORDER BY", _, rfl, by decide, by decide⟩
  | nil =>
      cases window with
      | all => exact ⟨terminator, [], rfl, by decide, by decide⟩
      | limit rows => exact ⟨_, _, rfl, limit_append_ne _⟩
      | limitOffset rows offset =>
          refine ⟨_, _, rfl, ?_⟩
          rw [String.append_assoc, String.append_assoc]
          exact limit_append_ne _
      | offsetLimit offset rows =>
          refine ⟨_, _, rfl, ?_⟩
          rw [String.append_assoc, String.append_assoc]
          exact limit_append_ne _

/-- A selection has its condition behind its target, unless SQL Server cuts a page out of it. -/
theorem varies_select
    (whole : compiler.dialect = some .sqlServer → operation.kind ≠ .batchQuery)
    (selection : Selection) (target : Target) (order : List SortKey) (top : Option Nat)
    (window : RowWindow) :
    compiler.Varies operation target fun filter =>
      .select selection target filter order top window := by
  refine ⟨["SELECT"] ++ (top.map Clause.top).getD [] ++ selection.words compiler.setting ++
      ["FROM"], Clause.order compiler.setting order ++ window.words ++ [terminator],
    ⟨List.suffix_append _ _, exists_next_selection order window compiler.setting, ?_⟩, ?_⟩
  · intro sqlServer batchQuery
    exact absurd batchQuery (whole sqlServer)
  · intro filter
    simp [Statement.words, Statement.body]

theorem varies_delete (target : Target) :
    compiler.Varies (.delete .filtered) target (.delete target) := by
  refine ⟨["DELETE", "FROM"], [terminator],
    ⟨List.suffix_append ["DELETE"] _, ⟨terminator, [], rfl, by decide, by decide⟩, ?_⟩, ?_⟩
  · intro _ batchQuery
    cases batchQuery
  · intro filter
    simp [Statement.words, Statement.body]

theorem varies_selectPage (page rows : UInt64) (fields : List Field) (target : Target)
    (order : List SortKey) (positions : Request.Page) :
    compiler.Varies (.batchQuery page rows) target fun filter =>
      .selectPage fields target filter order positions := by
  let columns := Clause.columnList compiler.setting fields
  let rowNumber := compiler.setting.quote "RowNumber"
  let source := ["WITH", "CTE", "AS", "("] ++
    (["SELECT", "ROW_NUMBER()", "OVER", "("] ++ Clause.order compiler.setting order ++
      [")", "AS " ++ rowNumber ++ ",", columns])
  let page := ["SELECT", columns, "FROM", "CTE",
      "WHERE (" ++ rowNumber ++ " BETWEEN " ++ toString (positions.offset + 1) ++ " AND " ++
        toString positions.last ++ ")"] ++
    Clause.order compiler.setting order ++ [terminator]
  refine ⟨source ++ ["FROM"], ")" :: page,
    ⟨List.suffix_append _ _, ⟨")", page, rfl, by decide, by decide⟩, ?_⟩, ?_⟩
  · intro _ _
    exact ⟨(List.prefix_append _ _).trans (List.prefix_append _ _), rfl⟩
  · intro filter
    simp [Statement.words, Statement.body, Statement.selectPageWords, source, page, columns,
      rowNumber]

theorem conditioned_batchQuery (page rows : UInt64) :
    compiler.Conditioned configuration request (.batchQuery page rows) := by
  cases dialect : compiler.dialect with
  | none =>
      refine .inl ⟨.dialectRequired, fun filter => ?_⟩
      simp [Compiler.text, compile, batchQuery, dialect, bind, Except.bind]
  | some known =>
      have compiled (filter : Option Filter) :
          compiler.compile configuration (.batchQuery page rows) { request with filter } =
            compiler.planPage request page rows >>= fun positions =>
              .ok [pageStatement known { request with filter } rows positions] := by
        rw [compile, batchQuery, dialect]
        rfl
      -- Only the page on SQL Server is cut out of a row source.
      have whole {other : Dialect} (different : other ≠ .sqlServer)
          (chosen : compiler.dialect = some other) : compiler.dialect = some .sqlServer →
            (Operation.batchQuery page rows).kind ≠ .batchQuery := by
        intro sqlServer
        exact absurd (Option.some.inj (chosen.symm.trans sqlServer)) different
      cases known with
      | sqlServer =>
          exact conditioned_of_plan (compiler.planPage request page rows)
            (varies_selectPage page rows request.fields request.target request.order) compiled
      | mySql =>
          exact conditioned_of_plan (compiler.planPage request page rows)
            (fun positions => varies_select (whole (by decide) dialect)
              (.fields request.fields) request.target request.order none
              (.offsetLimit positions.offset.toNat rows.toNat)) compiled
      | postgreSql | sqlite =>
          exact conditioned_of_plan (compiler.planPage request page rows)
            (fun positions => varies_select (whole (by decide) dialect)
              (.fields request.fields) request.target request.order none
              (.limitOffset rows.toNat positions.offset.toNat)) compiled

theorem conditioned_query (top : Option Nat) :
    compiler.Conditioned configuration request (.query top) := by
  have whole : compiler.dialect = some .sqlServer → (Operation.query top).kind ≠ .batchQuery :=
    fun _ => by simp [Operation.kind]
  refine conditioned_of_plan
    (request.checkCommon compiler.setting >>= fun _ => request.checkFields)
    (fun _ => varies_select whole (.fields request.fields) request.target request.order
      (compiler.frontLimit (queryLimit top)) (compiler.endLimit (queryLimit top)))
    fun filter => ?_
  rw [bind_assoc]
  rfl

/-- An operation that heeds the filter writes its condition and nothing else of it. -/
theorem conditioned_of_filtersRows (heeds : FiltersRows operation) :
    compiler.Conditioned configuration request operation := by
  cases heeds with
  | count =>
      exact conditioned_of_plan (request.checkCommon compiler.setting)
        (fun _ => varies_select (fun _ => by simp [Operation.kind])
          (.expression compiler.countExpression "CountValue") request.target [] none .all)
        fun filter => rfl
  | anyRow =>
      exact conditioned_of_plan (request.checkCommon compiler.setting)
        (fun _ => varies_select (fun _ => by simp [Operation.kind])
          (.expression "1" "ExistsValue") request.target []
          (compiler.frontLimit (some 1)) (compiler.endLimit (some 1)))
        fun filter => rfl
  | aggregate function field =>
      exact conditioned_of_plan (request.checkCommon compiler.setting)
        (fun _ => varies_select (fun _ => by simp [Operation.kind])
          (.expression (compiler.aggregateCall function (field.quoted compiler.setting))
            function.resultName) request.target [] none .all)
        fun filter => rfl
  | delete =>
      exact conditioned_of_plan (request.checkCommon compiler.setting)
        (fun _ => varies_delete request.target) fun filter => rfl
  | query top => exact conditioned_query top
  | batchQuery page rows => exact conditioned_batchQuery page rows

def WithoutUpdate (statements : List Statement) : Prop :=
  ∀ statement ∈ statements, statement.updates = false

theorem withoutUpdate_truncateStatements :
    WithoutUpdate (compiler.truncateStatements request) := by
  unfold WithoutUpdate truncateStatements
  split <;> simp [Statement.updates]

theorem withoutUpdate_insertRow (target : Target) (plan : InsertPlan) (batched : Bool)
    (row : Nat) : WithoutUpdate (compiler.insertRow target plan batched row) := by
  unfold WithoutUpdate insertRow insertTail
  split <;> simp [keySelection, Statement.updates]

theorem withoutUpdate_insertStatements (target : Target) (plan : InsertPlan) (rows : Nat) :
    WithoutUpdate (compiler.insertStatements target plan rows) := by
  intro statement member
  unfold insertStatements at member
  split at member
  next =>
    obtain rfl := List.mem_singleton.mp member
    rfl
  next =>
    obtain ⟨row, -, written⟩ := List.mem_flatMap.mp member
    exact withoutUpdate_insertRow target plan _ row statement written

theorem withoutUpdate_mergeRow (setting : Setting) (dialect : Dialect) (target : Target)
    (plan : MergePlan) (batched : Bool) (row : Nat) :
    WithoutUpdate (mergeRow setting dialect target plan batched row) := by
  have reread (function : String) :
      WithoutUpdate (mergedKey setting function plan batched row) := by
    unfold WithoutUpdate mergedKey
    split <;> simp [keySelection, Statement.updates]
  cases dialect with
  | sqlServer | postgreSql => simp [WithoutUpdate, mergeRow, Statement.updates]
  | mySql | sqlite => exact List.forall_mem_cons.mpr ⟨rfl, reread _⟩

/-- Updates are written by the operations of that name only. -/
theorem withoutUpdate_of_compile {statements : List Statement}
    (other : ∀ extent, operation ≠ .update extent)
    (compiled : compiler.compile configuration operation request = .ok statements) :
    WithoutUpdate statements := by
  intro statement member
  cases operation with
  | truncate =>
      obtain ⟨-, -, rfl⟩ := compile_truncate_eq_ok_iff.mp compiled
      exact withoutUpdate_truncateStatements statement member
  | insert extent =>
      obtain ⟨plan, -, rfl⟩ := compile_insert_eq_ok_iff.mp compiled
      exact withoutUpdate_insertStatements request.target plan _ statement member
  | update extent => exact absurd rfl (other extent)
  | merge extent =>
      obtain ⟨dialect, plan, -, -, rfl⟩ := compile_merge_eq_ok_iff.mp compiled
      obtain ⟨row, -, written⟩ := List.mem_flatMap.mp member
      exact withoutUpdate_mergeRow _ dialect request.target plan _ row statement written
  | _ =>
      obtain ⟨single, rfl, plain, -⟩ := exists_statement_of_isPlain rfl compiled
      obtain rfl := List.mem_singleton.mp member
      cases statement <;> first | rfl | cases plain

/-- The text of an update has a predicate for every row, and it is not empty. -/
def UpdatesWhere (compiler : Compiler) (request : Request) (extent : Extent) (text : String) :
    Prop :=
  ∃ fields condition, UpdateCondition.Decided compiler.setting request extent condition ∧
    (∀ row, condition.predicate compiler.setting row ≠ "") ∧
    text = (StatementText.ofWords ((List.range (extent.rows request)).flatMap fun row =>
      updateWords compiler.setting request.target fields row
        (condition.predicate compiler.setting row))).finished

/-- A filter whose only comparator is inside a group beside an empty one. -/
def deepFilter : Filter where
  items :=
    .group .or false .nil
      (.group .and true
        (.leaf { field := { name := "Id" }, comparison := .equal,
                 value := .int 1, kind := .plain } .nil) .nil)

def deeplyFiltered : Request where
  table := "Item"
  fields := [{ name := "Name" }]
  filter := some deepFilter
  hints := some "WITH (TABLOCK)"

example : Dialect.sqlServer.compiler.text .initial (.delete .filtered) deeplyFiltered =
    .ok "DELETE FROM [Item] WITH (TABLOCK) WHERE (NOT ([Id] = @Id)) ;" := by
  decide +kernel

end Compiler

end SqlCompiler
