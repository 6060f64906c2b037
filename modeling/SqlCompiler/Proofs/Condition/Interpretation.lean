import SqlCompiler.Proofs.Condition.Leaves
import SqlCompiler.Proofs.SearchCondition.Truth

/-!
# What comparisons mean for a row

An interpretation says what is true of one row: it has the values of the
columns and a meaning for each of the six relations between two values.  The
relations of conditions and the comparisons of comparators are given their
meanings apart from each other, and translating a relation keeps its meaning.
A relation can be read from its other side, so a leaf of a condition and the
comparator it is translated to mean the same, on whichever side the constant
stands.
-/

namespace SqlCompiler

/-- What columns, relations between values and texts mean for a row. -/
structure Interpretation (Truth : Type) where
  column : String → Value
  apply : ColumnFunction → Value → Value
  equal : Value → Value → Truth
  notEqual : Value → Value → Truth
  less : Value → Value → Truth
  greater : Value → Value → Truth
  lessOrEqual : Value → Value → Truth
  greaterOrEqual : Value → Value → Truth
  /-- Comparisons with patterns, ranges and lists, and null checks. -/
  otherComparison : Comparison → Value → Value → Truth
  literal : String → Truth
  /-- Calls that stand for no comparison. -/
  otherCall : String → Operand → List Operand → Truth
  equal_comm : ∀ first second, equal first second = equal second first
  notEqual_comm : ∀ first second, notEqual first second = notEqual second first
  less_swap : ∀ first second, less first second = greater second first
  lessOrEqual_swap : ∀ first second, lessOrEqual first second = greaterOrEqual second first

namespace Condition

/-- The comparison of a column with a value that a call stands for. -/
def calledComparison? (function : String) (target : Operand) (arguments : List Operand) :
    Option (String × Comparison × Value) :=
  match Text.lookup functionSpellings (Text.asciiLower function), target, arguments with
  | some .contains, .column name, [.constant (.text text)] =>
      some (name, .like, .text (containsPattern text))
  | some .startsWith, .column name, [.constant (.text text)] =>
      some (name, .like, .text (startsWithPattern text))
  | some .endsWith, .column name, [.constant (.text text)] =>
      some (name, .like, .text (endsWithPattern text))
  | some .like, .column name, [.constant pattern] => some (name, .like, pattern)
  | some .oneOf, .column name, [.constant (.list values)]
  | some .contains, .constant (.list values), [.column name] =>
      some (name, .oneOf, .list values)
  | _, _, _ => none

theorem callComparator_eq (function : String) (target : Operand) (arguments : List Operand) :
    callComparator function target arguments =
      match calledComparison? function target arguments with
      | some (name, comparison, value) => Comparator.make name comparison value
      | none => .error (.functionNotSupported function) := by
  unfold callComparator calledComparison?
  split <;> simp_all [Comparator.like]

end Condition

namespace Interpretation

variable {Truth : Type} (meaning : Interpretation Truth)

/-- The meaning of a relation of a condition. -/
def related : Relation → Value → Value → Truth
  | .equal => meaning.equal
  | .notEqual => meaning.notEqual
  | .less => meaning.less
  | .greater => meaning.greater
  | .lessOrEqual => meaning.lessOrEqual
  | .greaterOrEqual => meaning.greaterOrEqual

/-- The meaning of a comparison of a comparator. -/
def compare : Comparison → Value → Value → Truth
  | .equal => meaning.equal
  | .notEqual => meaning.notEqual
  | .lessThan => meaning.less
  | .greaterThan => meaning.greater
  | .lessThanOrEqual => meaning.lessOrEqual
  | .greaterThanOrEqual => meaning.greaterOrEqual
  | comparison => meaning.otherComparison comparison

def operand : Operand → Value
  | .column name => meaning.column name
  | .constant value => value

def comparator (comparator : Comparator) : Truth :=
  let column := meaning.column comparator.field.name
  match comparator.kind with
  | .literal text => meaning.literal text
  | .functional function =>
      meaning.compare comparator.comparison (meaning.apply function column) comparator.value
  | .plain | .directional _ _ => meaning.compare comparator.comparison column comparator.value

/-- A column by itself means that it is true, and a call means its comparison. -/
def leaf : Condition.Leaf → Truth
  | .compare left relation right =>
      meaning.related relation (meaning.operand left) (meaning.operand right)
  | .column name => meaning.equal (meaning.column name) (.bool true)
  | .call function target arguments =>
      match Condition.calledComparison? function target arguments with
      | some (name, comparison, value) => meaning.compare comparison (meaning.column name) value
      | none => meaning.otherCall function target arguments

/-- The comparison that a relation is translated to has its meaning. -/
theorem compare_comparison (relation : Relation) :
    meaning.compare relation.comparison = meaning.related relation := by
  cases relation <;> rfl

/-- A relation can be read from its other side. -/
theorem related_flip (relation : Relation) (first second : Value) :
    meaning.related relation.flip second first = meaning.related relation first second := by
  cases relation with
  | equal => exact meaning.equal_comm second first
  | notEqual => exact meaning.notEqual_comm second first
  | less => exact (meaning.less_swap first second).symm
  | greater => exact meaning.less_swap second first
  | lessOrEqual => exact (meaning.lessOrEqual_swap first second).symm
  | greaterOrEqual => exact meaning.lessOrEqual_swap second first

theorem comparator_of_make {name : String} {comparison : Comparison} {value : Value}
    {comparator : Comparator} (made : Comparator.make name comparison value = .ok comparator) :
    meaning.comparator comparator = meaning.compare comparison (meaning.column name) value := by
  obtain ⟨field, named, checked⟩ := bind_eq_ok_iff.mp made
  obtain ⟨-, rfl⟩ := (Field.ofName_eq_ok_iff name field).mp named
  obtain ⟨-, -, equal⟩ := bind_eq_ok_iff.mp checked
  cases equal
  rfl

/-- The comparator of a leaf means the leaf. -/
theorem comparator_of_translate {leaf : Condition.Leaf} {comparator : Comparator}
    (translated : leaf.translate = .ok comparator) :
    meaning.comparator comparator = meaning.leaf leaf := by
  cases leaf with
  | compare left relation right =>
      cases left with
      | column name =>
          cases right with
          | column other =>
              simp [Condition.Leaf.translate, Condition.comparisonComparator] at translated
          | constant value =>
              rw [meaning.comparator_of_make translated, meaning.compare_comparison]
              rfl
      | constant value =>
          cases right with
          | column name =>
              rw [meaning.comparator_of_make translated, meaning.compare_comparison]
              exact meaning.related_flip relation value (meaning.column name)
          | constant other =>
              simp [Condition.Leaf.translate, Condition.comparisonComparator] at translated
  | column name => exact meaning.comparator_of_make translated
  | call function target arguments =>
      rw [Condition.Leaf.translate, Condition.callComparator_eq] at translated
      rw [leaf]
      cases called : Condition.calledComparison? function target arguments with
      | none => simp [called] at translated
      | some comparison =>
          rw [called] at translated
          exact meaning.comparator_of_make translated

/-- The order of two numbers; other values have none. -/
def numberOrder? : Value → Value → Option Ordering
  | .int first, .int second => some (Ord.compare first.toInt second.toInt)
  | _, _ => none

theorem numberOrder?_swap (first second : Value) :
    numberOrder? second first = (numberOrder? first second).map Ordering.swap := by
  cases first with
  | int first =>
      cases second with
      | int second => exact congrArg some Std.OrientedOrd.eq_swap
      | _ => rfl
  | _ => cases second <;> rfl

/-- Whether the order of two values is one of some; without an order this is unknown. -/
def ordered (accepted : Ordering → Bool) (first second : Value) : SqlTruth :=
  match numberOrder? first second with
  | some order => if accepted order then .holds else .fails
  | none => .unknown

theorem ordered_swap {accepted turned : Ordering → Bool}
    (agree : ∀ order, accepted order.swap = turned order) (first second : Value) :
    ordered turned first second = ordered accepted second first := by
  unfold ordered
  rw [numberOrder?_swap first second]
  cases numberOrder? first second with
  | none => rfl
  | some order => simp [agree]

/-- Numbers are compared by their order, and nothing is known of other values. -/
def ofNumbers (row : String → Value) : Interpretation SqlTruth where
  column := row
  apply _ value := value
  equal := ordered Ordering.isEq
  notEqual := ordered Ordering.isNe
  less := ordered Ordering.isLT
  greater := ordered Ordering.isGT
  lessOrEqual := ordered Ordering.isLE
  greaterOrEqual := ordered Ordering.isGE
  otherComparison _ _ _ := .unknown
  literal _ := .unknown
  otherCall _ _ _ := .unknown
  equal_comm := ordered_swap fun order => by cases order <;> rfl
  notEqual_comm := ordered_swap fun order => by cases order <;> rfl
  less_swap := ordered_swap fun order => by cases order <;> rfl
  lessOrEqual_swap := ordered_swap fun order => by cases order <;> rfl

/-- The truth values of some leaves by their places; places behind the last leaf do not count. -/
def assignment (logic : Logic Truth) (comparators : List Comparator) (place : Nat) : Truth :=
  (comparators.map meaning.comparator).getD place (logic.unit .and)

theorem map_assignment (logic : Logic Truth) (comparators : List Comparator) :
    (List.range' 0 comparators.length).map (meaning.assignment logic comparators) =
      comparators.map meaning.comparator := by
  apply List.ext_getElem
  · simp
  · intro place inRange inComparators
    have small : place < comparators.length := by simpa using inComparators
    simp [assignment, small]

end Interpretation

end SqlCompiler
