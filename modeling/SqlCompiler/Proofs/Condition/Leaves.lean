import SqlCompiler.Condition

/-!
# The leaves of a condition

A condition is built with connectives from leaves: comparisons, columns and
calls.  Each leaf is translated by itself, into one comparator or a refusal.
The filter of a condition holds the translations of all its leaves, from left
to right, and a refused condition is refused for its leftmost refused leaf.

Conditions have six constructors, but only three shapes: a leaf, two operands
with a conjunction, and a negation.
-/

namespace SqlCompiler

namespace Condition

/-- A condition without connectives. -/
inductive Leaf where
  | compare (left : Operand) (relation : Relation) (right : Operand)
  | column (name : String)
  | call (function : String) (target : Operand) (arguments : List Operand)
  deriving Repr

namespace Leaf

def condition : Leaf → Condition
  | .compare left relation right => .compare left relation right
  | .column name => .column name
  | .call function target arguments => .call function target arguments

/-- The comparator of a leaf, unless it has none. -/
def translate : Leaf → Except CompileError Comparator
  | .compare left relation right => comparisonComparator left relation right
  | .column name => Comparator.equal name (.bool true)
  | .call function target arguments => callComparator function target arguments

end Leaf

/-- Two operands with a conjunction. -/
def join : Conjunction → Condition → Condition → Condition
  | .and => .and
  | .or => .or

/-- The leaves from left to right. -/
def leaves : Condition → List Leaf
  | .compare left relation right => [.compare left relation right]
  | .column name => [.column name]
  | .call function target arguments => [.call function target arguments]
  | .and left right | .or left right => left.leaves ++ right.leaves
  | .not condition => condition.leaves

@[elab_as_elim]
theorem shapeInduction {motive : Condition → Prop} (leaf : ∀ leaf : Leaf, motive leaf.condition)
    (join : ∀ conjunction left right, motive left → motive right →
      motive (join conjunction left right))
    (not : ∀ condition, motive condition → motive condition.not) (condition : Condition) :
    motive condition := by
  induction condition with
  | compare left relation right => exact leaf (.compare left relation right)
  | column name => exact leaf (.column name)
  | call function target arguments => exact leaf (.call function target arguments)
  | and left right leftIH rightIH => exact join .and left right leftIH rightIH
  | or left right leftIH rightIH => exact join .or left right leftIH rightIH
  | not condition ih => exact not condition ih

@[simp]
theorem leaves_leaf (leaf : Leaf) : leaf.condition.leaves = [leaf] := by
  cases leaf <;> rfl

@[simp]
theorem leaves_join (conjunction : Conjunction) (left right : Condition) :
    (join conjunction left right).leaves = left.leaves ++ right.leaves := by
  cases conjunction <;> rfl

theorem toFilter_leaf (leaf : Leaf) :
    leaf.condition.toFilter = leaf.translate.map (fun comparator => .all [comparator]) := by
  cases leaf <;> rfl

theorem operandItems_leaf (leaf : Leaf) (conjunction : Conjunction) :
    leaf.condition.operandItems conjunction =
      leaf.translate.map (fun comparator => .leaf comparator .nil) := by
  cases leaf <;> rfl

theorem toFilter_join (conjunction : Conjunction) (left right : Condition) :
    (join conjunction left right).toFilter = (do
      let first ← left.operandItems conjunction
      let second ← right.operandItems conjunction
      .ok { conjunction, items := first ++ second }) := by
  cases conjunction <;> rfl

/-- Operands with the conjunction around them are spread, others make a group. -/
theorem operandItems_join (outer conjunction : Conjunction) (left right : Condition) :
    (join conjunction left right).operandItems outer = (do
      let first ← left.operandItems conjunction
      let second ← right.operandItems conjunction
      .ok (if outer = conjunction then first ++ second
        else .group conjunction false (first ++ second) .nil)) := by
  cases outer <;> cases conjunction <;> rfl

theorem toFilter_not (condition : Condition) :
    condition.not.toFilter = condition.toFilter.map Filter.negate :=
  rfl

theorem operandItems_not (condition : Condition) (outer : Conjunction) :
    condition.not.operandItems outer =
      condition.toFilter.map (fun filter => filter.negate.asItem) :=
  rfl

theorem comparators_translated (condition : Condition) :
    condition.toFilter.map Filter.comparators = condition.leaves.mapM Leaf.translate ∧
      ∀ conjunction, (condition.operandItems conjunction).map FilterItems.comparators =
        condition.leaves.mapM Leaf.translate := by
  induction condition using shapeInduction with
  | leaf leaf =>
      simp only [toFilter_leaf, operandItems_leaf, leaves_leaf, List.mapM_cons, List.mapM_nil]
      cases leaf.translate with
      | error problem => exact ⟨rfl, fun _ => rfl⟩
      | ok comparator => exact ⟨rfl, fun _ => rfl⟩
  | join conjunction left right leftIH rightIH =>
      simp only [toFilter_join, operandItems_join, leaves_join, List.mapM_append,
        ← leftIH.2 conjunction, ← rightIH.2 conjunction]
      cases left.operandItems conjunction with
      | error problem => exact ⟨rfl, fun _ => rfl⟩
      | ok first =>
          cases right.operandItems conjunction with
          | error problem => exact ⟨rfl, fun _ => rfl⟩
          | ok second =>
              refine ⟨congrArg Except.ok (FilterItems.comparators_append first second), ?_⟩
              intro outer
              refine congrArg Except.ok ?_
              split
              · exact FilterItems.comparators_append first second
              · simp [FilterItems.comparators]
  | not condition ih =>
      rw [toFilter_not, leaves, ← ih.1]
      simp only [operandItems_not]
      cases condition.toFilter with
      | error problem => exact ⟨rfl, fun _ => rfl⟩
      | ok filter =>
          refine ⟨rfl, fun _ => congrArg Except.ok ?_⟩
          simp [Filter.asItem, Filter.negate, FilterItems.comparators, Filter.comparators]

/-- A condition is translated leaf by leaf, and refused for its leftmost refused leaf. -/
theorem map_comparators_toFilter (condition : Condition) :
    condition.toFilter.map Filter.comparators = condition.leaves.mapM Leaf.translate :=
  condition.comparators_translated.1

end Condition

end SqlCompiler
