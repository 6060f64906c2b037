import SqlCompiler.Proofs.Compiler.BoundPlaceholders
import SqlCompiler.Proofs.Compiler.Pages
import SqlCompiler.Proofs.Compiler.UpdateParameters
import SqlCompiler.Proofs.Compiler.WrittenConditions
import SqlCompiler.Proofs.Placeholder.Bound

/-!
# The parameters of a condition

A text compares the parameters of its conditions and nothing else.  Where the
condition comes from a filter, one statement is written, it has the text of the
filter behind `WHERE`, and it compares what the filter binds, in this order.
Where there is none, nothing is compared.  Only an update that looks at its
qualifiers compares parameters that no filter binds.
-/

namespace SqlCompiler

namespace Filter

variable {filter : Filter}

theorem constructed_forUpdate
    (constructed : ∀ comparator ∈ filter.comparators, comparator.Constructed) :
    ∀ comparator ∈ filter.forUpdate.comparators, comparator.Constructed := by
  intro comparator member
  rw [comparators, forUpdate, FilterItems.comparators_mapComparators] at member
  obtain ⟨plain, inFilter, rfl⟩ := List.mem_map.mp member
  exact .withUnderscore (constructed plain inFilter)

/-- A condition compares what its filter does. -/
theorem names_conditionFragments (setting : Setting) (filter : Filter) :
    Placeholder.names .compared
        ((Clause.conditionFragments setting 0 (some filter)).flatMap Fragments.placeholders) =
      filter.placeholderNames setting 0 := by
  have listed : (Clause.conditionFragments setting 0 (some filter)).flatMap
      Fragments.placeholders = Fragments.placeholders (filter.fragments setting 0) :=
    UpdateCondition.placeholders_filter filter setting 0
  rw [listed]
  exact Placeholder.names_of_role fun _ => role_of_mem_fragments

end Filter

/-! ## Statements with a filter -/

namespace Statement

/-- The statement has the text of a filter for its condition, and compares what the filter does. -/
structure Compares (setting : Setting) (filter : Filter) (statement : Statement) : Prop where
  condition : ["WHERE", filter.text setting 0] <:+: statement.body setting
  names : Placeholder.names .compared (statement.placeholders setting) =
    filter.placeholderNames setting 0

theorem infix_between (front middle next last : List String) :
    middle <:+: front ++ middle ++ next ++ last :=
  ⟨front, next ++ last, (List.append_assoc ..).symm⟩

variable {setting : Setting} {filter : Filter} {statement : Statement}

theorem condition_of_comparators (holds : filter.comparators ≠ []) :
    Clause.condition setting (some filter) 0 = ["WHERE", filter.text setting 0] := by
  simp [Clause.condition, Filter.isEmpty_eq_false_iff.mpr holds]

theorem compares_of_isPlain (plain : statement.isPlain = true)
    (given : statement.filter? = some filter) (holds : filter.comparators ≠ []) :
    statement.Compares setting filter := by
  cases statement with
  | select selection target tree order top window =>
      obtain rfl : tree = some filter := given
      constructor
      · rw [body, condition_of_comparators holds]
        exact infix_between _ _ _ _
      · rw [placeholders_select, Filter.names_conditionFragments]
  | selectPage fields target tree order page =>
      obtain rfl : tree = some filter := given
      constructor
      · rw [body, selectPageWords, condition_of_comparators holds]
        exact infix_between _ _ _ _
      · rw [placeholders_selectPage, Filter.names_conditionFragments]
  | delete target tree =>
      obtain rfl : tree = some filter := given
      constructor
      · rw [body, condition_of_comparators holds]
        exact (List.suffix_append _ _).isInfix
      · rw [placeholders_delete, Filter.names_conditionFragments]
  | _ => cases plain

/-- A selection or a deletion without a filter has no placeholder at all. -/
theorem placeholders_of_isPlain (setting : Setting) (plain : statement.isPlain = true)
    (given : statement.filter? = none) : statement.placeholders setting = [] := by
  cases statement with
  | select selection target tree order top window =>
      obtain rfl : tree = none := given
      rw [placeholders_select]
      rfl
  | selectPage fields target tree order page =>
      obtain rfl : tree = none := given
      rw [placeholders_selectPage]
      rfl
  | delete target tree =>
      obtain rfl : tree = none := given
      rw [placeholders_delete]
      rfl
  | _ => cases plain

theorem compares_updateRow (target : Target) (plan : Compiler.UpdatePlan)
    (filtered : plan.condition = .filter filter) (holds : filter.comparators ≠ []) :
    (Compiler.updateRow target plan 0).Compares setting filter := by
  constructor
  · rw [Compiler.updateRow, filtered, body, UpdateCondition.words,
      condition_of_comparators holds]
    exact (List.suffix_append _ _).isInfix
  · rw [(Compiler.names_updateRow setting target plan 0).2, filtered,
      UpdateCondition.placeholders_filter]
    rfl

end Statement

/-! ## Operations with a filter -/

namespace Compiler

variable {compiler : Compiler} {configuration : Configuration} {request : Request}
  {operation : Operation} {statements : List Statement}

theorem comparators_ne_nil_of_condition {filter : Filter}
    (given : operation.condition request = some filter) : filter.comparators ≠ [] := by
  have heeding {scope : Scope} (found : scope.filter request = some filter) :
      filter.comparators ≠ [] := by
    cases scope with
    | filtered => exact (Request.effectiveFilter_eq_some_iff.mp found).2
    | allRows => cases found
  cases operation with
  | count scope | aggregate function field scope | delete scope => exact heeding given
  | anyRow | query top | batchQuery page rows =>
      exact (Request.effectiveFilter_eq_some_iff.mp given).2
  | update extent =>
      obtain ⟨tree, heeded, rfl⟩ := Option.map_eq_some_iff.mp given
      cases extent with
      | oneRow =>
          exact Filter.comparators_forUpdate_ne_nil
            (Request.effectiveFilter_eq_some_iff.mp heeded).2
      | batch => cases heeded
  | truncate | insert extent | queryAll | merge extent => cases given

/-- An operation with a condition is one statement with this condition. -/
theorem exists_statement_of_condition {filter : Filter}
    (compiled : compiler.compile configuration operation request = .ok statements)
    (given : operation.condition request = some filter) :
    ∃ statement, statements = [statement] ∧ statement.Compares compiler.setting filter := by
  have holds := comparators_ne_nil_of_condition given
  cases operation with
  | update extent =>
      obtain ⟨tree, heeded, rfl⟩ := Option.map_eq_some_iff.mp given
      obtain ⟨plan, planned, rfl⟩ := compile_update_eq_ok_iff.mp compiled
      obtain ⟨-, -, -, planned⟩ := planUpdate_eq_ok_iff.mp planned
      rw [heeded] at planned
      obtain ⟨-, filtered⟩ := planFilteredUpdate_eq_ok_iff.mp planned
      cases extent with
      | oneRow => exact ⟨_, rfl, Statement.compares_updateRow request.target plan filtered holds⟩
      | batch => cases heeded
  | truncate | insert extent | merge extent => cases given
  | _ =>
      obtain ⟨statement, rfl, plain, same⟩ := exists_statement_of_isPlain rfl compiled
      exact ⟨statement, rfl, Statement.compares_of_isPlain plain (same.trans given) holds⟩

/-- The parameters of rows that are only stored and read back are not compared. -/
theorem names_compared_rows {fields : RowFields} (uncompared : fields.compared = [])
    (setting : Setting) (rows : List Nat) :
    Placeholder.names .compared (rows.flatMap (fields.placeholders setting)) = [] := by
  rw [Placeholder.names, List.map_eq_nil_iff, List.filter_eq_nil_iff]
  intro inside member
  obtain ⟨row, -, member⟩ := List.mem_flatMap.mp member
  rw [RowFields.placeholders, uncompared, Field.placeholders_nil, List.append_nil] at member
  rcases List.mem_append.mp member with stored | reported
  · obtain ⟨field, -, rfl⟩ := List.mem_map.mp stored
    simp
  · obtain ⟨field, -, rfl⟩ := List.mem_map.mp reported
    simp

/-- An operation without a condition compares nothing, unless it updates by qualifiers. -/
theorem names_compared_of_no_condition
    (compiled : compiler.compile configuration operation request = .ok statements)
    (other : ∀ extent, operation ≠ .update extent)
    (unconditional : operation.condition request = none) :
    Placeholder.names .compared (Statement.allPlaceholders compiler.setting statements) = [] := by
  cases operation with
  | truncate =>
      obtain ⟨-, -, rfl⟩ := compile_truncate_eq_ok_iff.mp compiled
      unfold truncateStatements
      split <;> rfl
  | insert extent =>
      obtain ⟨plan, -, rfl⟩ := compile_insert_eq_ok_iff.mp compiled
      rw [placeholders_insertStatements]
      exact names_compared_rows rfl _ _
  | merge extent =>
      obtain ⟨dialect, plan, -, -, rfl⟩ := compile_merge_eq_ok_iff.mp compiled
      rw [placeholders_merges]
      exact names_compared_rows rfl _ _
  | update extent => exact absurd rfl (other extent)
  | _ =>
      obtain ⟨statement, rfl, plain, same⟩ := exists_statement_of_isPlain rfl compiled
      have noPlaceholder := Statement.placeholders_of_isPlain compiler.setting plain
        (same.trans unconditional)
      simp [Statement.allPlaceholders_eq_flatMap, noPlaceholder, Placeholder.names]

/-- An update by qualifiers compares at least one parameter: some qualifier, in the first row. -/
theorem names_compared_ne_nil_of_qualifiers {extent : Extent}
    (compiled : compiler.compile configuration (.update extent) request = .ok statements)
    (unfiltered : heededFilter request extent = none) :
    Placeholder.names .compared (Statement.allPlaceholders compiler.setting statements) ≠ [] := by
  obtain ⟨⟨fields, condition⟩, planned, rfl⟩ := compile_update_eq_ok_iff.mp compiled
  obtain ⟨-, -, -, qualified⟩ := planUpdate_eq_ok_iff.mp planned
  rw [unfiltered] at qualified
  obtain ⟨qualifiers, resolved, -, rfl⟩ := planQualifiedUpdate_eq_ok_iff.mp qualified
  obtain ⟨field, member⟩ :=
    List.exists_mem_of_ne_nil qualifiers (Request.resolveQualifiers_ne_nil resolved)
  have firstRow : 0 ∈ List.range (extent.rows request) :=
    List.mem_range.mpr (extent.rows_pos request)
  have written : field.placeholder compiler.setting .compared 0 ∈
      RowFields.placeholders { stored := fields, compared := qualifiers } compiler.setting 0 := by
    refine List.mem_append_left _ (List.mem_append_right _ ?_)
    exact List.mem_map_of_mem member
  rw [placeholders_updates]
  apply List.ne_nil_of_mem
  exact List.mem_map_of_mem
    (List.mem_filter.mpr ⟨List.mem_flatMap.mpr ⟨0, firstRow, written⟩, decide_eq_true rfl⟩)

end Compiler

/-- A condition stands in the text of its statement, with one space behind `WHERE`. -/
theorem StatementText.exists_where_text {words : List String} {predicate : String}
    (inside : ["WHERE", predicate] <:+: words) (nonempty : predicate ≠ "") :
    ∃ front back, (ofWords (words ++ [terminator])).finished =
      front ++ "WHERE " ++ predicate ++ back := by
  obtain ⟨before, behind, rfl⟩ := inside
  refine ⟨String.ofList (spaced before), String.ofList (' ' :: spaced behind ++ [';']), ?_⟩
  apply String.toList_injective
  rw [toList_finished_ofWords, spaced_append, spaced_append]
  have condition : spaced ["WHERE", predicate] =
      "WHERE ".toList ++ predicate.toList ++ [' '] := by
    change spaced (["WHERE"] ++ [predicate]) = _
    rw [spaced_append, spaced_singleton (by decide), spaced_singleton nonempty]
    simp
  rw [condition]
  simp

end SqlCompiler
