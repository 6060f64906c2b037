import SqlCompiler.Proofs.Filter.Shape
import SqlCompiler.Proofs.Filter.Underscore
import SqlCompiler.Proofs.Placeholder.Bound

/-!
# The filter of an update under its other names

The filter of an update binds the same values as the filter it was made from,
under names with a low line behind the mark.  Its tree is the same, its stems
are handed out in step with those of the plain filter, and endings and row
numbers are added behind them.  So text and parameters are those of the plain
filter in a setting whose mark ends with a low line.
-/

namespace SqlCompiler

/-- The setting whose mark for parameters ends with a low line. -/
def Setting.withLowLine (setting : Setting) : Setting :=
  setting.withMark (setting.parameterMark ++ "_")

theorem Setting.mark_append_underscore (setting : Setting) (stem : String) :
    setting.parameterMark ++ underscore stem = setting.withLowLine.parameterMark ++ stem :=
  (String.append_assoc ..).symm

namespace Comparator

variable (setting : Setting) (comparator : Comparator) (stem : String)

theorem text_withUnderscore :
    comparator.withUnderscore.text setting (underscore stem) =
      comparator.text setting.withLowLine stem := by
  have column : comparator.withUnderscore.columnText setting =
      comparator.columnText setting.withLowLine := (comparator.columnText_withMark ..).symm
  have null : comparator.withUnderscore.checksNull = comparator.checksNull := rfl
  unfold Comparator.text
  rw [setting.mark_append_underscore, column, null]
  rfl

theorem parameters_withUnderscore :
    comparator.withUnderscore.parameters setting (underscore stem) =
      comparator.parameters setting.withLowLine stem := by
  unfold Comparator.parameters
  rw [setting.mark_append_underscore]
  rfl

end Comparator

namespace NamedItems

theorem texts_underscore (setting : Setting) (items : NamedItems) :
    items.underscore.texts setting = items.texts setting.withLowLine := by
  induction items with
  | nil => rfl
  | leaf comparator stem rest ih =>
      rw [underscore, texts, texts, ih]
      split
      next literal =>
        -- The low line is part of the stem, and a literal has none.
        have kept : comparator.withUnderscore.text setting stem =
            comparator.text setting stem := rfl
        rw [kept, Comparator.text_of_isLiteral literal setting setting.withLowLine stem stem]
      next => rw [Comparator.text_withUnderscore]
  | group conjunction negated inner rest innerIH restIH =>
      rw [underscore, texts, texts, innerIH, restIH]

theorem parameters_underscore (setting : Setting) (items : NamedItems) :
    items.underscore.parameters setting = items.parameters setting.withLowLine := by
  induction items with
  | nil => rfl
  | leaf comparator stem rest ih =>
      rw [underscore, parameters, parameters, ih]
      split
      next literal =>
        have alsoLiteral : comparator.withUnderscore.isLiteral = true := literal
        rw [Comparator.parameters_of_isLiteral literal,
          Comparator.parameters_of_isLiteral alsoLiteral]
      next => rw [Comparator.parameters_withUnderscore]
  | group conjunction negated inner rest innerIH restIH =>
      rw [underscore, parameters, parameters, innerIH, restIH]

end NamedItems

/-- The parameter with a mark in front of its name. -/
def BoundParameter.marked (mark : String) (parameter : BoundParameter) : BoundParameter :=
  { parameter with name := mark ++ parameter.name }

namespace Filter

/-- The parameters of a filter, named without a mark. -/
def unmarkedParameters (filter : Filter) (setting : Setting) (row : Nat) : List BoundParameter :=
  filter.parameters (setting.withMark "") row

theorem parameters_withMark (filter : Filter) (setting : Setting) (mark : String) (row : Nat) :
    filter.parameters (setting.withMark mark) row =
      (filter.unmarkedParameters setting row).map (BoundParameter.marked mark) := by
  rw [unmarkedParameters, parameters_eq_flatMap_leaves, parameters_eq_flatMap_leaves,
    List.map_flatMap]
  have leaves : filter.leaves (setting.withMark mark) row =
      filter.leaves (setting.withMark "") row := by
    rw [Filter.leaves, Filter.leaves, namedItems, namedItems, FilterItems.named_withMark,
      FilterItems.named_withMark]
  rw [leaves]
  refine List.flatMap_congr fun leaf _ => ?_
  simp [Comparator.parameters, BoundParameter.marked, String.append_assoc]

theorem text_forUpdate (filter : Filter) (setting : Setting) (row : Nat) :
    filter.forUpdate.text setting row =
      filter.withoutUnderscores.text setting.withLowLine row := by
  rw [text_eq_namedItems, namedItems_forUpdate, NamedItems.texts_underscore, text_eq_namedItems,
    namedItems, namedItems, Setting.withLowLine, FilterItems.named_withMark]
  rfl

theorem parameters_forUpdate (filter : Filter) (setting : Setting) (row : Nat) :
    filter.forUpdate.parameters setting row =
      filter.withoutUnderscores.parameters setting.withLowLine row := by
  rw [parameters_eq_namedItems, namedItems_forUpdate, NamedItems.parameters_underscore,
    parameters_eq_namedItems, namedItems, namedItems, Setting.withLowLine,
    FilterItems.named_withMark]

/-- A filter that has its low lines gets no further ones. -/
theorem forUpdate_forUpdate (filter : Filter) : filter.forUpdate.forUpdate = filter.forUpdate := by
  have items : filter.forUpdate.items.mapComparators Comparator.withUnderscore =
      filter.forUpdate.items := by
    rw [forUpdate, FilterItems.mapComparators_mapComparators]
    rfl
  rw [forUpdate, items, forUpdate]

/-- The names without a mark are those of the placeholders in the text. -/
theorem map_name_unmarkedParameters {filter : Filter}
    (constructed : ∀ comparator ∈ filter.comparators, comparator.Constructed)
    (setting : Setting) (row : Nat) :
    (filter.unmarkedParameters setting row).map BoundParameter.name =
      filter.placeholderNames setting row := by
  have written := filter.map_name_eq_placeholderNames constructed setting row
  have marked : filter.parameters setting row =
      (filter.unmarkedParameters setting row).map (.marked setting.parameterMark) :=
    filter.parameters_withMark setting setting.parameterMark row
  rw [marked, List.map_map] at written
  have injective : Function.Injective (setting.parameterMark ++ ·) := by
    intro first second equal
    simpa using equal
  apply List.map_injective_iff.mpr injective
  rw [List.map_map]
  exact written

/--
The filter of an update binds what the plain filter binds, in the same order,
and both texts are spelled from one list of fragments; its mark is followed by
a low line.  It has the same shape, and low lines are put in front only once.
-/
theorem forUpdate_renames (filter : Filter) (setting : Setting) (row : Nat) :
    ((∀ comparator ∈ filter.comparators, comparator.underscored = false) →
      filter.parameters setting row =
          (filter.unmarkedParameters setting row).map (.marked setting.parameterMark) ∧
        filter.forUpdate.parameters setting row =
          (filter.unmarkedParameters setting row).map (.marked (setting.parameterMark ++ "_")) ∧
        filter.text setting row =
          Fragments.spell setting.parameterMark (filter.fragments setting row) ∧
        filter.forUpdate.text setting row =
          Fragments.spell (setting.parameterMark ++ "_") (filter.fragments setting row) ∧
        ((∀ comparator ∈ filter.comparators, comparator.Constructed) →
          (filter.unmarkedParameters setting row).map BoundParameter.name =
            filter.placeholderNames setting row)) ∧
      FilterItems.SameShape filter.asItem filter.forUpdate.asItem ∧
      filter.forUpdate.forUpdate.text setting row = filter.forUpdate.text setting row ∧
      filter.forUpdate.forUpdate.parameters setting row =
        filter.forUpdate.parameters setting row := by
  refine ⟨fun plain => ?_, ?_, by rw [forUpdate_forUpdate], by rw [forUpdate_forUpdate]⟩
  · have same := withoutUnderscores_eq_self plain
    refine ⟨?_, ?_, ?_, ?_, fun constructed => map_name_unmarkedParameters constructed setting row⟩
    · exact filter.parameters_withMark setting setting.parameterMark row
    · rw [parameters_forUpdate, same]
      exact filter.parameters_withMark setting (setting.parameterMark ++ "_") row
    · rw [spell_fragments, setting.withMark_parameterMark]
    · rw [text_forUpdate, same, spell_fragments, Setting.withLowLine]
  · have items := FilterItems.sameShape_mapComparators Comparator.shape_withUnderscore filter.items
    exact .group items .nil

/-- A filter with columns called like numbered stems and like stems behind a low line. -/
def crossedColumns : Filter where
  conjunction := .or
  items :=
    .leaf { field := { name := "Id" }, comparison := .between,
            value := .list [.int 1, .int 9], kind := .plain }
      (.group .and true
        (.leaf { field := { name := "_Id" }, comparison := .equal,
                 value := .int 2, kind := .plain }
          (.leaf { field := { name := "Id_1" }, comparison := .equal,
                   value := .null, kind := .plain } .nil))
        (.leaf (.literal "[Id] <> @Id")
          (.leaf { field := { name := "Id" }, comparison := .oneOf,
                   value := .list [.int 4, .int 5], kind := .plain } .nil)))

theorem forUpdate_renames_crossedColumns :
    (∀ comparator ∈ crossedColumns.comparators, comparator.underscored = false) ∧
      (∀ comparator ∈ crossedColumns.comparators, comparator.Constructed) ∧
      crossedColumns.forUpdate.parameters .sqlServer 3 =
        (crossedColumns.unmarkedParameters .sqlServer 3).map (.marked "@_") ∧
      crossedColumns.forUpdate.text .sqlServer 3 =
        Fragments.spell "@_" (crossedColumns.fragments .sqlServer 3) ∧
      (crossedColumns.unmarkedParameters .sqlServer 3).map BoundParameter.name =
        crossedColumns.placeholderNames .sqlServer 3 := by
  have plain : ∀ comparator ∈ crossedColumns.comparators, comparator.underscored = false := by
    decide
  have constructed : ∀ comparator ∈ crossedColumns.comparators, comparator.Constructed := by
    intro comparator member
    simp only [crossedColumns, comparators, FilterItems.comparators, List.cons_append,
      List.nil_append, List.mem_cons, List.not_mem_nil, or_false] at member
    obtain rfl | rfl | rfl | rfl | rfl := member
    · exact .make (rfl : Comparator.make "Id" .between (.list [.int 1, .int 9]) = _)
    · exact .make (rfl : Comparator.make "_Id" .equal (.int 2) = _)
    · exact .make (rfl : Comparator.make "Id_1" .equal .null = _)
    · exact .literal "[Id] <> @Id"
    · exact .make (rfl : Comparator.make "Id" .oneOf (.list [.int 4, .int 5]) = _)
  obtain ⟨-, parameters, -, text, names⟩ := (forUpdate_renames crossedColumns .sqlServer 3).1 plain
  exact ⟨plain, constructed, parameters, text, names constructed⟩

example : (crossedColumns.forUpdate.parameters .sqlServer 0).map BoundParameter.name =
    ["@_Id_Left", "@_Id_Right", "@__Id", "@_Id_2_In_0", "@_Id_2_In_1"] := by
  decide +kernel

end Filter

end SqlCompiler
