import Mathlib.Data.List.Basic
import SqlCompiler.Comparator.Text

/-!
# The form of a comparator

What a comparator is written as and what it binds are decided apart from each
other: the text asks for null checks, ranges and lists, and so do the bindings.
Here one classification, the form, is made once.  It says which values a
comparator binds and how its condition is written when a row of placeholders
is given, of which it takes as many as it has values.

The constructors of comparators keep an invariant: a range has two values, a
list comparison has a list, and a directional comparator asks for equality.
Under it, text and bindings both follow the form.
-/

namespace SqlCompiler

namespace Comparator

/-- The comparators that the constructors make. -/
inductive Constructed : Comparator → Prop where
  | make {name : String} {comparison : Comparison} {value : Value} {comparator : Comparator}
      (made : Comparator.make name comparison value = .ok comparator) : Constructed comparator
  | directional {name : String} {value : Value} {direction : Direction} {size : Option Nat}
      {comparator : Comparator}
      (made : Comparator.directional name value direction size = .ok comparator) :
      Constructed comparator
  | functional {name : String} {comparison : Comparison} {value : Value}
      {function : ColumnFunction} {comparator : Comparator}
      (made : Comparator.functional name comparison value function = .ok comparator) :
      Constructed comparator
  | literal (text : String) : Constructed (Comparator.literal text)
  | withType {comparator : Comparator} (type : SqlType) (base : Constructed comparator) :
      Constructed (comparator.withType type)
  | withUnderscore {comparator : Comparator} (base : Constructed comparator) :
      Constructed comparator.withUnderscore

/-- What the constructors promise about the value and the comparison of a comparator. -/
structure WellFormed (comparator : Comparator) : Prop where
  valueFits : valueFits comparator.comparison comparator.value = true
  directionalEqual : comparator.isDirectional = true → comparator.comparison = .equal

theorem checkValue_eq_ok_iff (name : String) (comparison : Comparison) (value : Value) :
    checkValue name comparison value = .ok () ↔
      Comparator.valueFits comparison value = true := by
  unfold checkValue
  cases fits : Comparator.valueFits comparison value <;> cases comparison.isRange <;> simp

theorem ofKind_eq_ok {kind : ComparatorKind} {name : String} {comparison : Comparison}
    {value : Value} {comparator : Comparator}
    (made : ofKind kind name comparison value = .ok comparator) :
    comparator.kind = kind ∧ comparator.comparison = comparison ∧
      Comparator.valueFits comparison comparator.value = true := by
  unfold ofKind at made
  cases named : Field.ofName name with
  | error problem => simp [named, bind, Except.bind] at made
  | ok field =>
      cases checked : checkValue field.name comparison value with
      | error problem => simp [named, checked, bind, Except.bind] at made
      | ok =>
          have fits := (checkValue_eq_ok_iff field.name comparison value).mp checked
          simp only [named, checked, bind, Except.bind, Except.ok.injEq] at made
          subst comparator
          exact ⟨rfl, rfl, fits⟩

/-- The constructors keep the invariant. -/
theorem Constructed.wellFormed {comparator : Comparator} (constructed : comparator.Constructed) :
    comparator.WellFormed := by
  induction constructed with
  | make made =>
      obtain ⟨kind, comparison, fits⟩ := ofKind_eq_ok made
      exact ⟨comparison ▸ fits, by simp [isDirectional, kind]⟩
  | directional made =>
      obtain ⟨-, comparison, fits⟩ := ofKind_eq_ok made
      exact ⟨comparison ▸ fits, fun _ => comparison⟩
  | @functional name comparison value function comparator made =>
      by_cases place : function.hasColumn = true
      · rw [Comparator.functional, if_pos place] at made
        obtain ⟨kind, comparison, fits⟩ := ofKind_eq_ok made
        exact ⟨comparison ▸ fits, by simp [isDirectional, kind]⟩
      · simp [Comparator.functional, place] at made
  | literal text => exact ⟨rfl, by simp [isDirectional, Comparator.literal]⟩
  | withType type base ih => exact ⟨ih.valueFits, ih.directionalEqual⟩
  | withUnderscore base ih => exact ⟨ih.valueFits, ih.directionalEqual⟩

/-- What is written behind the column of a comparator, with the values that are bound there. -/
inductive Form where
  | verbatim (text : String)
  | nullTest (test : String)
  | single (token : String) (value : Value)
  | range (token : String) (first last : Value)
  | membership (token emptyTest : String) (values : List Value)

namespace Form

def values : Form → List Value
  | .verbatim _ | .nullTest _ => []
  | .single _ value => [value]
  | .range _ first last => [first, last]
  | .membership _ _ values => values

/--
Write a condition about a column, taking placeholders from the front of a list.

The result has the placeholders that are left over; there is none when the
list is too short.
-/
def write (column : String) : Form → List String → Option (String × List String)
  | .verbatim text, names => some (text, names)
  | .nullTest test, names => some (column ++ " " ++ test, names)
  | .single token _, name :: names => some (column ++ " " ++ token ++ " " ++ name, names)
  | .range token _ _, first :: last :: names =>
      some (column ++ " " ++ token ++ " " ++ first ++ " AND " ++ last, names)
  | .membership _ emptyTest [], names => some (emptyTest, names)
  | .membership token _ values, names =>
      if values.length ≤ names.length then
        some (column ++ " " ++ token ++ " (" ++ ", ".intercalate (names.take values.length) ++ ")",
          names.drop values.length)
      else none
  | _, _ => none

end Form

def comparisonForm (comparison : Comparison) (value : Value) : Form :=
  match comparison, value with
  | .isNull, _ | .equal, .null => .nullTest "IS NULL"
  | .isNotNull, _ | .notEqual, .null => .nullTest "IS NOT NULL"
  | .between, .list [first, last] => .range "BETWEEN" first last
  | .notBetween, .list [first, last] => .range "NOT BETWEEN" first last
  | .oneOf, .list values => .membership "IN" "1 = 0" values
  | .noneOf, .list values => .membership "NOT IN" "1 = 1" values
  | comparison, value => .single comparison.token value

def form (comparator : Comparator) : Form :=
  match comparator.kind with
  | .literal text => .verbatim text
  | .directional _ _ => .single comparator.comparison.token comparator.value
  | .plain | .functional _ => comparisonForm comparator.comparison comparator.value

/-- How the tests that text and bindings make decide the form of a comparator. -/
inductive HasForm (comparator : Comparator) : Form → Prop where
  | verbatim (text : String) (kind : comparator.kind = .literal text) :
      HasForm comparator (.verbatim text)
  | nullTest (named : comparator.isLiteral = false) (null : comparator.checksNull = true) :
      HasForm comparator (.nullTest (Comparator.nullTest comparator.comparison))
  | range (first last : Value) (named : comparator.isLiteral = false)
      (notNull : comparator.checksNull = false) (range : comparator.comparison.isRange = true)
      (pair : comparator.value = .list [first, last]) :
      HasForm comparator (.range comparator.comparison.token first last)
  | membership (values : List Value) (named : comparator.isLiteral = false)
      (notNull : comparator.checksNull = false) (notRange : comparator.comparison.isRange = false)
      (list : comparator.comparison.isList = true) (elements : comparator.value = .list values) :
      HasForm comparator
        (.membership comparator.comparison.token (emptyListTest comparator.comparison) values)
  | single (named : comparator.isLiteral = false) (notNull : comparator.checksNull = false)
      (notRange : comparator.comparison.isRange = false)
      (notList : comparator.comparison.isList = false) :
      HasForm comparator (.single comparator.comparison.token comparator.value)

theorem map_name_parameters (comparator : Comparator) (setting : Setting) (stem : String) :
    (comparator.parameters setting stem).map BoundParameter.name =
      (comparator.bindings.map Prod.fst).map (setting.parameterMark ++ stem ++ ·) := by
  simp [parameters, Function.comp_def]

theorem map_value_parameters (comparator : Comparator) (setting : Setting) (stem : String) :
    (comparator.parameters setting stem).map BoundParameter.value =
      comparator.bindings.map Prod.snd := by
  simp [parameters, Function.comp_def]

@[simp]
theorem length_listEndings (count : Nat) : (listEndings count).length = count := by
  simp [listEndings]

theorem exists_pair_of_valueFits {comparison : Comparison} {value : Value}
    (range : comparison.isRange = true)
    (fits : Comparator.valueFits comparison value = true) :
    ∃ first last, value = .list [first, last] := by
  cases value with
  | list items =>
      have two : items.length = 2 := by
        cases comparison <;> simp_all [Comparator.valueFits, Value.list?, Comparison.isRange]
      obtain ⟨first, last, rfl⟩ := List.length_eq_two.mp two
      exact ⟨first, last, rfl⟩
  | _ => simp [Comparator.valueFits, Value.list?, range] at fits

theorem exists_list_of_valueFits {comparison : Comparison} {value : Value}
    (list : comparison.isList = true)
    (fits : Comparator.valueFits comparison value = true) :
    ∃ items, value = .list items := by
  cases value with
  | list items => exact ⟨items, rfl⟩
  | _ => simp [Comparator.valueFits, Value.list?, list] at fits

theorem Form.write_membership (column token emptyTest : String) (values : List Value)
    (own rest : List String) (sameLength : own.length = values.length) :
    (Form.membership token emptyTest values).write column (own ++ rest) =
      some (if values.isEmpty then emptyTest
        else column ++ " " ++ token ++ " (" ++ ", ".intercalate own ++ ")", rest) := by
  cases values with
  | nil =>
      obtain rfl : own = [] := List.eq_nil_of_length_eq_zero sameLength
      rfl
  | cons value values => simp [Form.write, ← sameLength]

theorem checksNull_eq_false {comparator : Comparator}
    (notCheck : comparator.comparison.isNullCheck = false)
    (notEquality : comparator.comparison.isEquality = false) : comparator.checksNull = false := by
  simp [checksNull, notCheck, notEquality]

theorem hasForm_comparisonForm {comparator : Comparator}
    (named : comparator.isLiteral = false) (undirected : comparator.isDirectional = false)
    (fits : Comparator.valueFits comparator.comparison comparator.value = true) :
    comparator.HasForm (comparisonForm comparator.comparison comparator.value) := by
  obtain ⟨field, comparison, value, kind, underscored⟩ := comparator
  cases comparison with
  | isNull | isNotNull =>
      exact .nullTest named (by simp [checksNull, undirected, Comparison.isNullCheck])
  | between | notBetween =>
      obtain ⟨first, last, rfl⟩ := exists_pair_of_valueFits rfl fits
      exact .range first last named (checksNull_eq_false rfl rfl) rfl rfl
  | oneOf | noneOf =>
      obtain ⟨values, rfl⟩ := exists_list_of_valueFits rfl fits
      exact .membership values named (checksNull_eq_false rfl rfl) rfl rfl rfl
  | equal | notEqual =>
      cases value with
      | null =>
          exact .nullTest named
            (by simp [checksNull, undirected, Comparison.isEquality, Value.isNull])
      | _ =>
          -- Only a null turns an equality into a null check.
          exact .single named (by simp [checksNull, Comparison.isNullCheck, Value.isNull]) rfl rfl
  | _ => exact .single named (checksNull_eq_false rfl rfl) rfl rfl

/-- A comparator that keeps the invariant has its form. -/
theorem WellFormed.hasForm {comparator : Comparator} (wellFormed : comparator.WellFormed) :
    comparator.HasForm comparator.form := by
  obtain ⟨field, comparison, value, kind, underscored⟩ := comparator
  obtain ⟨fits, directionalEqual⟩ := wellFormed
  cases kind with
  | literal text => exact .verbatim text rfl
  | directional direction size =>
      obtain rfl : comparison = .equal := directionalEqual rfl
      exact .single rfl rfl rfl rfl
  | plain | functional function => exact hasForm_comparisonForm rfl rfl fits

theorem HasForm.map_snd_bindings {comparator : Comparator} {form : Form}
    (hasForm : comparator.HasForm form) :
    comparator.bindings.map Prod.snd = form.values := by
  cases hasForm with
  | verbatim text kind => simp [bindings, isLiteral, kind, Form.values]
  | nullTest named null => simp [bindings, null, Form.values]
  | range first last named notNull range pair =>
      simp [bindings, named, notNull, range, pair, rangeEndings, Form.values]
  | membership values named notNull notRange list elements =>
      simp [bindings, named, notNull, notRange, list, elements, Form.values, List.map_snd_zip]
  | single named notNull notRange notList =>
      simp [bindings, named, notNull, notRange, notList, Form.values]

theorem text_of_named {comparator : Comparator} (named : comparator.isLiteral = false)
    (setting : Setting) (stem : String) :
    comparator.text setting stem =
      if comparator.checksNull then
        comparator.columnText setting ++ " " ++ nullTest comparator.comparison
      else if comparator.comparison.isRange then
        comparator.columnText setting ++ " " ++ comparator.comparison.token ++ " " ++
          " AND ".intercalate (rangeEndings.map (setting.parameterMark ++ stem ++ ·))
      else if comparator.comparison.isList then
        if comparator.value.items.isEmpty then emptyListTest comparator.comparison
        else
          comparator.columnText setting ++ " " ++ comparator.comparison.token ++ " (" ++
            ", ".intercalate ((listEndings comparator.value.items.length).map
              (setting.parameterMark ++ stem ++ ·)) ++ ")"
      else
        comparator.columnText setting ++ " " ++ comparator.comparison.token ++ " " ++
          (setting.parameterMark ++ stem) := by
  obtain ⟨field, comparison, value, kind, underscored⟩ := comparator
  cases kind with
  | literal text => simp [isLiteral] at named
  | plain | directional direction size | functional function =>
      simp only [Comparator.text]
      cases value.items with
      | nil => rfl
      | cons item items => simp [listEndings, List.range_succ_eq_map]

/-- The text of a comparator is its form, written with the names of its parameters. -/
theorem HasForm.write_names {comparator : Comparator} {form : Form}
    (hasForm : comparator.HasForm form) (setting : Setting) (stem : String)
    (rest : List String) :
    form.write (comparator.columnText setting)
        ((comparator.parameters setting stem).map BoundParameter.name ++ rest) =
      some (comparator.text setting stem, rest) := by
  rw [map_name_parameters]
  cases hasForm with
  | verbatim text kind => simp [bindings, isLiteral, kind, Form.write, Comparator.text]
  | nullTest named null =>
      rw [text_of_named named]
      simp [bindings, null, Form.write]
  | range first last named notNull range pair =>
      rw [text_of_named named]
      simp [bindings, named, notNull, range, pair, rangeEndings, Form.write, String.append_assoc]
  | membership values named notNull notRange list elements =>
      rw [text_of_named named, Form.write_membership] <;>
        simp [bindings, named, notNull, notRange, list, elements, List.map_fst_zip]
  | single named notNull notRange notList =>
      rw [text_of_named named]
      simp [bindings, named, notNull, notRange, notList, Form.write]

end Comparator

end SqlCompiler
