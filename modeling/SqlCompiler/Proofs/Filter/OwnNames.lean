import SqlCompiler.Proofs.Filter.Tokens
import SqlCompiler.Statement.Clause

/-!
# Filters that rename nothing

Three ways of naming parameters meet: a comparator on its own, the namer of a
filter, and the list of equalities by which rows are matched.  A namer hands
out a stem as it is while the stem is free.  If the stems of a filter differ,
this is so at every leaf, since only the stems of leaves further left are
taken; so every leaf is written as it would be alone.  A list of equalities is
then the text of the filter that compares the same columns.
-/

namespace SqlCompiler

open SearchCondition

namespace Comparator

/-- The stem of a comparator that stands alone; a literal has none. -/
def ownStem (comparator : Comparator) (setting : Setting) (row : Nat) : String :=
  if comparator.isLiteral then "" else withRow (comparator.stem setting) row

theorem text_ownStem (comparator : Comparator) (setting : Setting) (row : Nat) :
    comparator.text setting (comparator.ownStem setting row) =
      comparator.textInRow setting row := by
  unfold ownStem
  split
  next literal => exact text_of_isLiteral literal setting setting ..
  next => rfl

theorem parameters_ownStem (comparator : Comparator) (setting : Setting) (row : Nat) :
    comparator.parameters setting (comparator.ownStem setting row) =
      comparator.parametersInRow setting row := by
  unfold ownStem
  split
  next literal =>
      rw [parametersInRow, parameters_of_isLiteral literal, parameters_of_isLiteral literal]
  next => rfl

end Comparator

/-- No two of the comparators that are named have the same stem. -/
def DistinctStems (setting : Setting) (comparators : List Comparator) : Prop :=
  comparators.Pairwise (fun first second =>
    first.isLiteral = false → second.isLiteral = false →
      first.stem setting ≠ second.stem setting)

/--
Distinct stems are handed out as they are.

The namer in front of a comparator has taken the stems of those further left
and no others, so the stem of the comparator is free.
-/
theorem Namer.nameAll_of_distinctStems (setting : Setting) (row : Nat)
    {comparators : List Comparator} (distinct : DistinctStems setting comparators)
    (namer : Namer)
    (free : ∀ comparator ∈ comparators, comparator.isLiteral = false →
      comparator.stem setting ∉ namer.taken) :
    (nameAll setting row comparators namer).1 =
      comparators.map (fun comparator => (comparator, comparator.ownStem setting row)) := by
  induction comparators generalizing namer with
  | nil => rfl
  | cons comparator rest ih =>
      obtain ⟨differs, distinct⟩ := List.pairwise_cons.mp distinct
      have freeLater : ∀ other ∈ rest, other.isLiteral = false →
          other.stem setting ∉ namer.taken :=
        fun other member => free other (List.mem_cons_of_mem _ member)
      rw [List.map_cons, Comparator.ownStem]
      unfold nameAll
      split
      next => exact congrArg _ (ih distinct namer freeLater)
      next named =>
        have plain : comparator.isLiteral = false := by simpa using named
        rw [next_of_free (free comparator List.mem_cons_self plain)]
        refine congrArg _ (ih distinct _ ?_)
        intro other member otherPlain taken
        obtain same | early := List.mem_cons.mp taken
        · exact differs other member plain otherPlain same.symm
        · exact freeLater other member otherPlain early

namespace Filter

/-- Every leaf of a filter is written and binds as it does alone. -/
structure WrittenAsAlone (filter : Filter) (setting : Setting) (row : Nat) : Prop where
  leafTexts : filter.leafTexts setting row =
    filter.comparators.map (·.textInRow setting row)
  text : filter.comparators ≠ [] →
    spell (filter.comparators.map (·.textInRow setting row)) filter.tokens =
      filter.text setting row
  parameters : filter.parameters setting row =
    filter.comparators.flatMap (·.parametersInRow setting row)

theorem writtenAsAlone_of_distinctStems {filter : Filter} {setting : Setting}
    (distinct : DistinctStems setting filter.comparators) (row : Nat) :
    filter.WrittenAsAlone setting row := by
  have leaves : filter.leaves setting row =
      filter.comparators.map (fun comparator => (comparator, comparator.ownStem setting row)) := by
    rw [leaves_eq_nameAll]
    exact Namer.nameAll_of_distinctStems setting row distinct {} (by simp)
  have leafTexts : filter.leafTexts setting row =
      filter.comparators.map (·.textInRow setting row) := by
    calc
      filter.leafTexts setting row =
          (filter.leaves setting row).map (fun leaf => leaf.1.text setting leaf.2) := rfl
      _ = filter.comparators.map (·.textInRow setting row) := by
        simp only [leaves, List.map_map, Function.comp_def, Comparator.text_ownStem]
  refine ⟨leafTexts, fun nonempty => ?_, ?_⟩
  · rw [← leafTexts, filter.spell_tokens nonempty]
  · rw [parameters_eq_flatMap_leaves, leaves, List.flatMap_map]
    simp only [Comparator.parameters_ownStem]

end Filter

/-! ## Equalities -/

namespace Comparator

/-- The comparator says that the column of a field, as it is, equals a value that is not null. -/
structure Equates (field : Field) (comparator : Comparator) : Prop where
  name : comparator.field.name = field.name
  comparison : comparator.comparison = .equal
  value : comparator.value.isNull = false
  kind : comparator.kind = .plain ∨
    ∃ direction size, comparator.kind = .directional direction size
  underscored : comparator.underscored = false

theorem equates_of_equal {field : Field} {value : Value} {comparator : Comparator}
    (made : equal field.name value = .ok comparator) (notNull : value.isNull = false) :
    comparator.Equates field := by
  obtain ⟨column, named, checked⟩ := bind_eq_ok_iff.mp made
  obtain ⟨-, rfl⟩ := (Field.ofName_eq_ok_iff field.name column).mp named
  obtain ⟨-, -, equal⟩ := bind_eq_ok_iff.mp checked
  cases equal
  exact ⟨rfl, rfl, notNull, .inl rfl, rfl⟩

variable {field : Field} {comparator : Comparator}

theorem Equates.stem (equates : comparator.Equates field) (setting : Setting) :
    comparator.stem setting = setting.parameterName field.name := by
  simp [Comparator.stem, equates.name, equates.underscored]

/-- Alone, the comparator is written as the equation of its field. -/
theorem Equates.textInRow (equates : comparator.Equates field) (setting : Setting) (row : Nat) :
    comparator.textInRow setting row = Clause.equation setting row field := by
  have null : comparator.checksNull = false := by
    simp [checksNull, equates.comparison, equates.value, Comparison.isNullCheck]
  obtain plain | ⟨direction, size, directional⟩ := equates.kind
  · simp [Comparator.textInRow, Comparator.text, columnText, plain, null, equates.stem,
      equates.name, equates.comparison, Comparison.isRange, Comparison.isList, Comparison.token,
      Clause.equation, Field.quoted, Field.parameter, Setting.parameter, String.append_assoc]
  · simp [Comparator.textInRow, Comparator.text, columnText, directional, null, equates.stem,
      equates.name, equates.comparison, Comparison.isRange, Comparison.isList, Comparison.token,
      Clause.equation, Field.quoted, Field.parameter, Setting.parameter, String.append_assoc]

end Comparator

/-- Without groups the texts of the items are those of the leaves. -/
theorem FilterItems.texts_named_ofComparators (setting : Setting) (row : Nat)
    (comparators : List Comparator) (namer : Namer) :
    ((ofComparators comparators).named setting row namer).1.texts setting =
      ((ofComparators comparators).named setting row namer).1.leafTexts setting := by
  induction comparators generalizing namer with
  | nil => rfl
  | cons comparator rest ih =>
      unfold ofComparators named
      split <;> exact congrArg _ (ih _)

/-- Related lists are alike under functions that agree on what is related. -/
theorem map_eq_map_of_forall₂ {Item Partner Image : Type} {related : Item → Partner → Prop}
    {image : Item → Image} {partnerImage : Partner → Image} {items : List Item}
    {partners : List Partner} (pairs : List.Forall₂ related items partners)
    (agree : ∀ item partner, related item partner → partnerImage partner = image item) :
    partners.map partnerImage = items.map image := by
  induction pairs with
  | nil => rfl
  | cons pair _ ih => rw [List.map_cons, List.map_cons, agree _ _ pair, ih]

section Equalities

variable {fields : List Field} {comparators : List Comparator}
  (equates : List.Forall₂ Comparator.Equates fields comparators)

include equates

theorem distinctStems_of_equates {setting : Setting}
    (distinct : (fields.map (fun field => setting.parameterName field.name)).Nodup) :
    DistinctStems setting comparators := by
  have stems : comparators.map (·.stem setting) =
      fields.map (fun field => setting.parameterName field.name) :=
    map_eq_map_of_forall₂ equates (fun _ _ pair => pair.stem setting)
  rw [← stems] at distinct
  refine (List.pairwise_map.mp distinct).imp ?_
  intro first second differ _ _
  exact differ

/-- The filter of equal comparisons has the text of the list of equalities. -/
theorem condition_all_of_equates {setting : Setting}
    (distinct : (fields.map (fun field => setting.parameterName field.name)).Nodup) (row : Nat) :
    Clause.condition setting (some (.all comparators)) row =
      Clause.equalities setting fields row := by
  have alone : (Filter.all comparators).WrittenAsAlone setting row := by
    apply Filter.writtenAsAlone_of_distinctStems
    simpa [Filter.comparators, Filter.all] using distinctStems_of_equates equates distinct
  have leafTexts : (Filter.all comparators).leafTexts setting row =
      fields.map (Clause.equation setting row) := by
    rw [alone.leafTexts]
    simpa [Filter.comparators, Filter.all] using
      map_eq_map_of_forall₂ equates (fun _ _ pair => pair.textInRow setting row)
  have text : (Filter.all comparators).text setting row =
      joinedText .and false (fields.map (Clause.equation setting row)) := by
    rw [← leafTexts, Filter.text_eq_namedItems]
    exact congrArg (joinedText .and false)
      (FilterItems.texts_named_ofComparators setting row comparators {})
  cases equates with
  | nil => rfl
  | @cons field comparator fields comparators =>
      have holds : (Filter.all (comparator :: comparators)).isEmpty = false := rfl
      have keyword : " " ++ Conjunction.and.keyword ++ " " = " AND " := rfl
      rw [Clause.condition, if_neg (by simp [holds]), text, joinedText, keyword]
      rfl

end Equalities

namespace Filter

/--
Where no two named leaves of a filter have the same stem, nothing is renamed:
the filter is written and binds leaf by leaf as its leaves do alone.  So the
condition that some columns with different parameters equal them is written
like the filter that compares these columns with values.
-/
theorem rename_nothing_of_distinctStems (setting : Setting) (row : Nat) :
    (∀ filter : Filter, DistinctStems setting filter.comparators →
      filter.WrittenAsAlone setting row) ∧
    ∀ (fields : List Field) (comparators : List Comparator),
      (fields.map (fun field => setting.parameterName field.name)).Nodup →
      List.Forall₂ Comparator.Equates fields comparators →
        Clause.condition setting (some (.all comparators)) row =
          Clause.equalities setting fields row := by
  constructor
  · intro filter distinct
    exact writtenAsAlone_of_distinctStems distinct row
  · intro fields comparators distinct equates
    exact condition_all_of_equates equates distinct row

/-- Leaves with different stems: a null check, a text twice, a range and a low line in a group. -/
def differentColumns : Filter where
  negated := true
  items :=
    .leaf { field := { name := "Deleted At" }, comparison := .equal,
            value := .null, kind := .plain }
      (.leaf (.literal "[Kept] = 1")
        (.group .or true
          (.leaf { field := { name := "Age" }, comparison := .between,
                   value := .list [.int 18, .int 65], kind := .plain }
            (.leaf { field := { name := "Age" }, comparison := .equal,
                     value := .int 7, kind := .plain, underscored := true }
              (.leaf (.literal "[Kept] = 1") .nil))) .nil))

theorem rename_nothing_of_distinctStems_differentColumns :
    DistinctStems .sqlServer differentColumns.comparators ∧
      differentColumns.WrittenAsAlone .sqlServer 3 ∧
      ∃ order line, Comparator.equal "[Order Id]" (.int 1) = .ok order ∧
        Comparator.equal "Line" (.text "a") = .ok line ∧
        Clause.condition .sqlServer (some (.all [order, line])) 2 =
          Clause.equalities .sqlServer [{ name := "[Order Id]" }, { name := "Line" }] 2 := by
  have distinct : DistinctStems .sqlServer differentColumns.comparators := by
    unfold DistinctStems
    decide +kernel
  have columns : ([{ name := "[Order Id]" }, { name := "Line" }].map
      (fun field : Field => Setting.sqlServer.parameterName field.name)).Nodup := by
    decide +kernel
  obtain ⟨order, orderMade⟩ : ∃ order, Comparator.equal "[Order Id]" (.int 1) = .ok order :=
    ⟨_, rfl⟩
  obtain ⟨line, lineMade⟩ : ∃ line, Comparator.equal "Line" (.text "a") = .ok line := ⟨_, rfl⟩
  refine ⟨distinct, (rename_nothing_of_distinctStems .sqlServer 3).1 _ distinct,
    order, line, orderMade, lineMade, ?_⟩
  apply (rename_nothing_of_distinctStems .sqlServer 2).2 _ _ columns
  exact .cons (Comparator.equates_of_equal orderMade rfl)
    (.cons (Comparator.equates_of_equal lineMade rfl) .nil)

/-- A stem that occurs twice is renamed. -/
example :
    (any [{ field := { name := "Id" }, comparison := .isNull, value := .null, kind := .plain },
      { field := { name := "Id" }, comparison := .equal, value := .int 2,
        kind := .plain }]).text .sqlServer 0 =
      "([Id] IS NULL OR [Id] = @Id_1)" := by
  decide +kernel

end Filter

end SqlCompiler
