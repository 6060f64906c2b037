import SqlCompiler.Proofs.Compiler.Plan
import SqlCompiler.Proofs.Filter.Underscore
import SqlCompiler.Proofs.Placeholder.Statement

/-!
# When an update binds assigned and compared values apart

An update writes the values that it assigns and the values that it compares
into one set of parameters.  Compared parameters of a filter have a low line in
front, which an assigned column can have as well; those of qualifiers have no
mark of their own.  Both cases are told exactly by the names of the columns.
-/

namespace SqlCompiler

theorem disjoint_map_map_iff {α β : Type} {first : List α} {second : List β}
    {name : α → String} {other : β → String} :
    (first.map name).Disjoint (second.map other) ↔
      ∀ left ∈ first, ∀ right ∈ second, name left ≠ other right := by
  constructor
  · intro disjoint left leftMem right rightMem equal
    exact disjoint (List.mem_map_of_mem leftMem) (equal ▸ List.mem_map_of_mem rightMem)
  · intro apart shared inFirst inSecond
    obtain ⟨left, leftMem, rfl⟩ := List.mem_map.mp inFirst
    obtain ⟨right, rightMem, equal⟩ := List.mem_map.mp inSecond
    exact apart left leftMem right rightMem equal.symm

namespace Filter

/-- The filter of an update writes the names of the plain filter behind a low line. -/
theorem placeholderNames_forUpdate (filter : Filter) (setting : Setting) (row : Nat) :
    filter.forUpdate.placeholderNames setting row =
      (filter.withoutUnderscores.placeholderNames setting row).map underscore := by
  rw [placeholderNames_eq, placeholderNames_eq, leaves_forUpdate, List.flatMap_map,
    List.map_flatMap]
  refine List.flatMap_congr fun leaf _ => ?_
  have same : (underscoreLeaf leaf).1.writtenEndings = leaf.1.writtenEndings := rfl
  rw [same, List.map_map]
  refine List.map_congr_left fun ending written => ?_
  -- A literal gets no low line, but it has no ending either.
  have named : leaf.1.isLiteral = false := by
    by_contra literal
    simp [Comparator.writtenEndings, literal] at written
  simp [underscoreLeaf, named, underscore, String.append_assoc]

end Filter

namespace Compiler

/-- The parameters of one updated row: those of the assigned fields and those of the condition. -/
theorem names_updateRow (setting : Setting) (target : Target) (plan : UpdatePlan) (row : Nat) :
    Placeholder.names .stored ((updateRow target plan row).placeholders setting) =
        plan.fields.map (fun field => withRow (setting.parameterName field.name) row) ∧
      Placeholder.names .compared ((updateRow target plan row).placeholders setting) =
        (plan.condition.placeholders setting row).map Placeholder.name := by
  have stored : ∀ inside ∈ Field.placeholders plan.fields setting .stored row,
      inside.role = .stored := by
    intro inside member
    obtain ⟨field, -, rfl⟩ := List.mem_map.mp member
    rfl
  have compared : ∀ inside ∈ plan.condition.placeholders setting row,
      inside.role = .compared :=
    fun inside member => UpdateCondition.role_of_mem_placeholders member
  have listed : (updateRow target plan row).placeholders setting =
      Field.placeholders plan.fields setting .stored row ++
        plan.condition.placeholders setting row :=
    Statement.placeholders_update setting target plan.fields row plan.condition
  rw [listed, Placeholder.names_append, Placeholder.names_append]
  constructor
  · rw [Placeholder.names_of_role stored, Placeholder.names_of_other_role compared (by decide),
      List.append_nil, Field.placeholders, List.map_map]
    rfl
  · rw [Placeholder.names_of_other_role stored (by decide), Placeholder.names_of_role compared,
      List.nil_append]

/--
No assigned column is named like a parameter of the filter behind a low line,
or without a filter like a qualifier.
-/
def NamesApart (setting : Setting) (request : Request) : Prop :=
  match request.effectiveFilter with
  | some filter =>
      ∀ field ∈ request.updatableFields setting [],
        ∀ name ∈ filter.withoutUnderscores.placeholderNames setting 0,
          setting.parameterName field.name ≠ underscore name
  | none =>
      ∀ qualifiers, request.resolveQualifiers setting = .ok qualifiers →
        ∀ field ∈ request.updatableFields setting qualifiers, ∀ qualifier ∈ qualifiers,
          setting.parameterName field.name ≠ setting.parameterName qualifier.name

/--
An update of one row binds assigned and compared values apart exactly when the
assigned columns are not named like what its condition compares.
-/
theorem disjoint_update_names_iff {compiler : Compiler} {configuration : Configuration}
    {request : Request} {statements : List Statement}
    (compiled : compiler.compile configuration (.update .oneRow) request = .ok statements) :
    (∀ mark, (Statement.allFragments compiler.setting statements).map (Fragments.spell mark) =
        Statement.allWords (compiler.setting.withMark mark) statements) ∧
      ((Placeholder.names .stored
            (Statement.allPlaceholders compiler.setting statements)).Disjoint
          (Placeholder.names .compared
            (Statement.allPlaceholders compiler.setting statements)) ↔
        NamesApart compiler.setting request) := by
  refine ⟨Statement.map_spell_allFragments compiler.setting statements, ?_⟩
  obtain ⟨⟨fields, condition⟩, planned, rfl⟩ := compile_update_eq_ok_iff.mp compiled
  obtain ⟨-, -, -, planned⟩ := planUpdate_eq_ok_iff.mp planned
  obtain ⟨stored, compared⟩ := names_updateRow compiler.setting request.target
    { fields, condition } 0
  have single : Statement.allPlaceholders compiler.setting
      ((List.range (Extent.oneRow.rows request)).map
        (updateRow request.target { fields, condition })) =
      (updateRow request.target { fields, condition } 0).placeholders compiler.setting := by
    simp [Statement.allPlaceholders_eq_flatMap, Extent.rows, List.range_one]
  rw [single, stored, compared]
  simp only [heededFilter] at planned
  unfold NamesApart
  cases effective : request.effectiveFilter with
  | some filter =>
      rw [effective] at planned
      obtain ⟨kept, rfl⟩ := planFilteredUpdate_eq_ok_iff.mp planned
      obtain ⟨rfl, -⟩ := Request.someUpdatableFields_eq_ok_iff.mp kept
      have renamed := filter.placeholderNames_forUpdate compiler.setting 0
      rw [Filter.placeholderNames] at renamed
      rw [UpdateCondition.placeholders_filter, renamed]
      rw [disjoint_map_map_iff]
      rfl
  | none =>
      rw [effective] at planned
      obtain ⟨qualifiers, resolved, kept, rfl⟩ := planQualifiedUpdate_eq_ok_iff.mp planned
      obtain ⟨rfl, -⟩ := Request.someUpdatableFields_eq_ok_iff.mp kept
      rw [UpdateCondition.placeholders_qualifiers, Field.placeholders, List.map_map,
        disjoint_map_map_iff]
      constructor
      · intro apart others othersResolved
        obtain rfl : qualifiers = others := Except.ok.inj (resolved.symm.trans othersResolved)
        exact apart
      · exact fun apart => apart qualifiers resolved

/-- A column that is assigned and compared. -/
def renamedColumn : Request where
  table := "Item"
  fields := [{ name := "Name" }]
  filter := some (.all [{ field := { name := "Name" }, comparison := .like,
                          value := .text "A%", kind := .plain }])

def renamedColumnUpdate : List Statement :=
  [.update renamedColumn.target renamedColumn.fields 0
    (.filter (renamedColumn.filter.getD {}).forUpdate)]

theorem disjoint_update_names_iff_renamedColumn :
    Dialect.sqlServer.compiler.compile .initial (.update .oneRow) renamedColumn =
        .ok renamedColumnUpdate ∧
      ((Placeholder.names .stored
            (Statement.allPlaceholders .sqlServer renamedColumnUpdate)).Disjoint
          (Placeholder.names .compared
            (Statement.allPlaceholders .sqlServer renamedColumnUpdate)) ↔
        NamesApart .sqlServer renamedColumn) := by
  have compiled : Dialect.sqlServer.compiler.compile .initial (.update .oneRow) renamedColumn =
      .ok renamedColumnUpdate := rfl
  exact ⟨compiled, (disjoint_update_names_iff compiled).2⟩

example : Placeholder.names .compared
    (Statement.allPlaceholders .sqlServer renamedColumnUpdate) = ["_Name"] := by
  decide +kernel

/-- An assigned column that starts with a low line, beside a compared one without it. -/
def underscoredColumn : Request where
  table := "Item"
  fields := [{ name := "_Id" }, { name := "Name" }]
  filter := some (.all [{ field := { name := "Id" }, comparison := .equal,
                          value := .int 1, kind := .plain }])

def underscoredColumnUpdate : List Statement :=
  [.update underscoredColumn.target underscoredColumn.fields 0
    (.filter (underscoredColumn.filter.getD {}).forUpdate)]

/-- The assigned column and the compared one share their parameter. -/
theorem not_disjoint_underscoredColumn :
    Dialect.sqlServer.compiler.compile .initial (.update .oneRow) underscoredColumn =
        .ok underscoredColumnUpdate ∧
      ¬ (Placeholder.names .stored
            (Statement.allPlaceholders .sqlServer underscoredColumnUpdate)).Disjoint
          (Placeholder.names .compared
            (Statement.allPlaceholders .sqlServer underscoredColumnUpdate)) := by
  refine ⟨rfl, fun disjoint => ?_⟩
  have assigned : "_Id" ∈ Placeholder.names .stored
      (Statement.allPlaceholders .sqlServer underscoredColumnUpdate) := by
    decide +kernel
  have compared : "_Id" ∈ Placeholder.names .compared
      (Statement.allPlaceholders .sqlServer underscoredColumnUpdate) := by
    decide +kernel
  exact disjoint assigned compared

end Compiler

end SqlCompiler
