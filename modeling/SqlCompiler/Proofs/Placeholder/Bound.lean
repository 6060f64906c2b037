import SqlCompiler.Proofs.Filter.ParameterNames
import SqlCompiler.Proofs.Placeholder.Filter

/-!
# What a filter writes and what it binds

The placeholders in the text of a filter are the names of the parameters that
it binds, in the same order.  The text asks for null checks, ranges and lists
by itself, so this rests on the form of the leaves.
-/

namespace SqlCompiler

namespace Comparator

/-- What is bound has the endings that are written. -/
theorem HasForm.map_fst_bindings {comparator : Comparator} {form : Form}
    (hasForm : comparator.HasForm form) :
    comparator.bindings.map Prod.fst = comparator.writtenEndings := by
  cases hasForm with
  | verbatim text kind => simp [bindings, writtenEndings, isLiteral, kind]
  | nullTest named null => simp [bindings, writtenEndings, null]
  | range first last named notNull range pair =>
      simp [bindings, writtenEndings, named, notNull, range, pair, rangeEndings]
  | membership values named notNull notRange list elements =>
      simp [bindings, writtenEndings, named, notNull, notRange, list, elements, List.map_fst_zip]
  | single named notNull notRange notList =>
      simp [bindings, writtenEndings, named, notNull, notRange, notList]

end Comparator

namespace Filter

variable {filter : Filter}

/-- A filter binds what it writes, in the same order. -/
theorem map_name_eq_placeholderNames
    (constructed : ∀ comparator ∈ filter.comparators, comparator.Constructed)
    (setting : Setting) (row : Nat) :
    (filter.parameters setting row).map BoundParameter.name =
      (filter.placeholderNames setting row).map (setting.parameterMark ++ ·) := by
  rw [map_name_parameters, placeholderNames_eq, List.map_flatMap]
  apply List.flatMap_congr
  intro leaf member
  have inFilter : leaf.1 ∈ filter.comparators := by
    rw [← filter.map_fst_leaves setting row]
    exact List.mem_map_of_mem member
  have endings := (constructed leaf.1 inFilter).wellFormed.hasForm.map_fst_bindings
  rw [leafNames, Comparator.endings, endings, List.map_map]
  apply List.map_congr_left
  intro ending _
  exact String.append_assoc ..

end Filter

end SqlCompiler
