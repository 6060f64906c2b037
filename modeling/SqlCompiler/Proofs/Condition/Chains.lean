import SqlCompiler.Proofs.Condition.Leaves
import SqlCompiler.Proofs.Error.InOrder

/-!
# Chains of one conjunction

Conditions joined by one conjunction make a chain, and how a chain is bracketed
leaves no trace in its filter: one group holds an item for every operand, in
their order.  An operand with the other conjunction and a negation make groups
of their own, so a chain ends there.  A chain is refused like any condition,
for the leftmost of its leaves that is refused.
-/

namespace SqlCompiler

/-! ## The first refusal -/

namespace Condition

theorem refusal?_toFilter (condition : Condition) :
    refusal? condition.toFilter =
      condition.leaves.findSome? (fun leaf => refusal? leaf.translate) := by
  rw [← refusal?_mapM, ← map_comparators_toFilter]
  cases condition.toFilter <;> rfl

/-- A condition is refused as its leftmost leaf that is refused. -/
theorem toFilter_eq_error_iff {condition : Condition} {problem : CompileError} :
    condition.toFilter = .error problem ↔
      ∃ before leaf after, condition.leaves = before ++ leaf :: after ∧
        leaf.translate = .error problem ∧
        ∀ earlier ∈ before, ∃ comparator, earlier.translate = .ok comparator := by
  rw [← refusal?_eq_some_iff, refusal?_toFilter, List.findSome?_eq_some_iff]
  simp only [refusal?_eq_some_iff, refusal?_eq_none_iff]

theorem toFilter_eq_ok_iff {condition : Condition} :
    (∃ filter, condition.toFilter = .ok filter) ↔
      ∀ leaf ∈ condition.leaves, ∃ comparator, leaf.translate = .ok comparator := by
  rw [← refusal?_eq_none_iff, refusal?_toFilter, List.findSome?_eq_none_iff]
  simp only [refusal?_eq_none_iff]

/-! ## Operands and their items -/

/-- The operands of a chain of one conjunction; anything else is its own operand. -/
def operands (conjunction : Conjunction) : Condition → List Condition
  | .and left right =>
      match conjunction with
      | .and => left.operands conjunction ++ right.operands conjunction
      | .or => [.and left right]
  | .or left right =>
      match conjunction with
      | .and => [.or left right]
      | .or => left.operands conjunction ++ right.operands conjunction
  | condition => [condition]

/-- The item of an operand: a comparator for a leaf, and a group for anything else. -/
def item : Condition → Except CompileError FilterItems
  | .compare left relation right =>
      (comparisonComparator left relation right).map (fun comparator => .leaf comparator .nil)
  | .column name =>
      (Comparator.equal name (.bool true)).map (fun comparator => .leaf comparator .nil)
  | .call function target arguments =>
      (callComparator function target arguments).map (fun comparator => .leaf comparator .nil)
  | condition => condition.toFilter.map Filter.asItem

@[simp]
theorem operands_leaf (leaf : Leaf) (conjunction : Conjunction) :
    leaf.condition.operands conjunction = [leaf.condition] := by
  cases leaf <;> rfl

theorem operands_join (outer conjunction : Conjunction) (left right : Condition) :
    (join conjunction left right).operands outer =
      if outer = conjunction then left.operands conjunction ++ right.operands conjunction
      else [join conjunction left right] := by
  cases outer <;> cases conjunction <;> rfl

theorem item_leaf (leaf : Leaf) :
    leaf.condition.item = leaf.translate.map (fun comparator => .leaf comparator .nil) := by
  cases leaf <;> rfl

theorem item_join (conjunction : Conjunction) (left right : Condition) :
    (join conjunction left right).item =
      (join conjunction left right).toFilter.map Filter.asItem := by
  cases conjunction <;> rfl

end Condition

/-- Some items, one behind the other. -/
def FilterItems.concat (parts : List FilterItems) : FilterItems :=
  parts.foldr (· ++ ·) .nil

theorem FilterItems.concat_append (first second : List FilterItems) :
    concat (first ++ second) = concat first ++ concat second := by
  induction first with
  | nil => rfl
  | cons items rest ih =>
      have front : concat (items :: (rest ++ second)) = items ++ concat (rest ++ second) := rfl
      have back : concat (items :: rest) = items ++ concat rest := rfl
      rw [List.cons_append, front, back, ih, append_assoc]

namespace Condition

/-- An operand adds to a group the items of its own operands. -/
theorem operandItems_eq (condition : Condition) (conjunction : Conjunction) :
    condition.operandItems conjunction =
      ((condition.operands conjunction).mapM item).map FilterItems.concat := by
  induction condition using shapeInduction generalizing conjunction with
  | leaf leaf =>
      rw [operandItems_leaf, operands_leaf, List.mapM_cons, List.mapM_nil, item_leaf]
      cases leaf.translate <;> rfl
  | join inner left right leftIH rightIH =>
      rw [operandItems_join, operands_join, leftIH, rightIH]
      split
      next same =>
        rw [List.mapM_append]
        cases (left.operands inner).mapM item with
        | error problem => rfl
        | ok first =>
            cases (right.operands inner).mapM item with
            | error problem => rfl
            | ok second => exact congrArg Except.ok (FilterItems.concat_append first second).symm
      next =>
        rw [List.mapM_cons, List.mapM_nil, item_join, toFilter_join, leftIH, rightIH]
        cases (left.operands inner).mapM item with
        | error problem => rfl
        | ok first => cases (right.operands inner).mapM item <;> rfl
  | not condition ih =>
      rw [operandItems_not]
      have alone : condition.not.operands conjunction = [condition.not] := rfl
      have group : condition.not.item = condition.not.toFilter.map Filter.asItem := rfl
      rw [alone, List.mapM_cons, List.mapM_nil, group, toFilter_not]
      cases condition.toFilter <;> rfl

/-- A chain is a group of the items that it adds to groups of its own conjunction. -/
theorem toFilter_join_eq_map (conjunction : Conjunction) (left right : Condition) :
    (join conjunction left right).toFilter =
      ((join conjunction left right).operandItems conjunction).map
        (fun items => { conjunction, items }) := by
  simp only [toFilter_join, operandItems_join, if_true]
  cases left.operandItems conjunction with
  | error problem => rfl
  | ok first => cases right.operandItems conjunction <;> rfl

/-- The filter of a chain is one group with an item for every operand. -/
theorem toFilter_join_eq (conjunction : Conjunction) (left right : Condition) :
    (join conjunction left right).toFilter =
      (((join conjunction left right).operands conjunction).mapM item).map
        (fun items => { conjunction, items := .concat items }) := by
  rw [toFilter_join_eq_map, operandItems_eq]
  cases ((join conjunction left right).operands conjunction).mapM item <;> rfl

theorem operands_ne_nil (condition : Condition) (conjunction : Conjunction) :
    condition.operands conjunction ≠ [] := by
  induction condition using shapeInduction with
  | leaf leaf => simp
  | join inner left right leftIH rightIH =>
      rw [operands_join]
      split
      next same => exact List.append_ne_nil_of_left_ne_nil (same ▸ leftIH) _
      next => exact List.cons_ne_nil _ _
  | not condition => exact List.cons_ne_nil _ _

/-- A condition is a chain of the conjunction or its own operand. -/
theorem eq_join_or_operands_eq (condition : Condition) (conjunction : Conjunction) :
    (∃ left right, condition = join conjunction left right) ∨
      condition.operands conjunction = [condition] := by
  cases condition using shapeInduction with
  | leaf leaf => exact .inr (operands_leaf leaf conjunction)
  | join inner left right =>
      by_cases same : conjunction = inner
      · exact .inl ⟨left, right, same ▸ rfl⟩
      · exact .inr (by rw [operands_join, if_neg same])
  | not condition => exact .inr rfl

theorem operands_join_ne_singleton (conjunction : Conjunction) (left right other : Condition) :
    (join conjunction left right).operands conjunction ≠ [other] := by
  rw [operands_join, if_pos rfl]
  intro single
  obtain ⟨noFront, -⟩ | ⟨-, noBack⟩ := List.append_eq_singleton_iff.mp single
  · exact operands_ne_nil left conjunction noFront
  · exact operands_ne_nil right conjunction noBack

/-- Conditions with the same operands have the same filter. -/
theorem toFilter_congr {conjunction : Conjunction} {first second : Condition}
    (same : first.operands conjunction = second.operands conjunction) :
    first.toFilter = second.toFilter := by
  -- A chain has two operands at least, so it does not share them with an operand by itself.
  obtain ⟨left, right, rfl⟩ | firstAlone := eq_join_or_operands_eq first conjunction
  · obtain ⟨front, back, rfl⟩ | secondAlone := eq_join_or_operands_eq second conjunction
    · rw [toFilter_join_eq, toFilter_join_eq, same]
    · exact absurd (same.trans secondAlone) (operands_join_ne_singleton _ left right second)
  · obtain ⟨front, back, rfl⟩ | secondAlone := eq_join_or_operands_eq second conjunction
    · exact absurd (same.symm.trans firstAlone) (operands_join_ne_singleton _ front back first)
    · rw [firstAlone, secondAlone] at same
      rw [List.singleton_inj.mp same]

/-! ## Brackets -/

/-- The ways to bracket operands with one conjunction. -/
inductive Brackets (conjunction : Conjunction) : Condition → List Condition → Prop where
  | operand (condition : Condition) : Brackets conjunction condition [condition]
  | join {left right : Condition} {first second : List Condition}
      (front : Brackets conjunction left first) (back : Brackets conjunction right second) :
      Brackets conjunction (join conjunction left right) (first ++ second)

theorem Brackets.operands_eq {conjunction : Conjunction} {condition : Condition}
    {parts : List Condition} (brackets : Brackets conjunction condition parts) :
    condition.operands conjunction = parts.flatMap (operands conjunction) := by
  induction brackets with
  | operand condition => simp
  | join _ _ frontIH backIH =>
      rw [operands_join, if_pos rfl, frontIH, backIH, List.flatMap_append]

/--
A chain of one conjunction is translated to one group with an item for every
operand, in their order, however it is bracketed.  A condition has no filter
exactly if some leaf of it has no comparator, and then it is refused as its
leftmost leaf without one.
-/
theorem chain_translation (conjunction : Conjunction) :
    (∀ first second third,
      (join conjunction (join conjunction first second) third).toFilter =
        (join conjunction first (join conjunction second third)).toFilter) ∧
      (∀ first second parts, Brackets conjunction first parts →
        Brackets conjunction second parts → first.toFilter = second.toFilter) ∧
      (∀ left right, (join conjunction left right).toFilter =
        (((join conjunction left right).operands conjunction).mapM item).map
          (fun items => { conjunction, items := .concat items })) ∧
      ∀ condition : Condition,
        ((∃ filter, condition.toFilter = .ok filter) ↔
          ∀ leaf ∈ condition.leaves, ∃ comparator, leaf.translate = .ok comparator) ∧
        ∀ problem, condition.toFilter = .error problem ↔
          ∃ before leaf after, condition.leaves = before ++ leaf :: after ∧
            leaf.translate = .error problem ∧
            ∀ earlier ∈ before, ∃ comparator, earlier.translate = .ok comparator := by
  have bracketed : ∀ first second parts, Brackets conjunction first parts →
      Brackets conjunction second parts → first.toFilter = second.toFilter := by
    intro first second parts firstBrackets secondBrackets
    exact toFilter_congr (firstBrackets.operands_eq.trans secondBrackets.operands_eq.symm)
  refine ⟨?_, bracketed, toFilter_join_eq conjunction, fun condition => ⟨?_, fun problem => ?_⟩⟩
  · intro first second third
    apply bracketed _ _ [first, second, third]
    · exact .join (.join (.operand first) (.operand second)) (.operand third)
    · exact .join (.operand first) (.join (.operand second) (.operand third))
  · exact toFilter_eq_ok_iff
  · exact toFilter_eq_error_iff

def visible : Condition :=
  .not (.and (.column "IsLocked") (.column "IsHidden"))

def inSomeCity : Condition :=
  .or (isNull "City") (like "City" "O%")

def grownUp : Condition :=
  .and (compareWith "Age" .greater (.int 18)) (.column "IsActive")

/-- A negated chain, a disjunction and a chain of its own, bracketed in two ways. -/
theorem chain_translation_visiblePersons :
    Brackets .and (.and (.and visible inSomeCity) grownUp) [visible, inSomeCity, grownUp] ∧
      Brackets .and (.and visible (.and inSomeCity grownUp)) [visible, inSomeCity, grownUp] ∧
      (Condition.and (.and visible inSomeCity) grownUp).toFilter =
        (Condition.and visible (.and inSomeCity grownUp)).toFilter := by
  have toLeft : Brackets .and (.and (.and visible inSomeCity) grownUp)
      [visible, inSomeCity, grownUp] :=
    .join (.join (.operand visible) (.operand inSomeCity)) (.operand grownUp)
  have toRight : Brackets .and (.and visible (.and inSomeCity grownUp))
      [visible, inSomeCity, grownUp] :=
    .join (.operand visible) (.join (.operand inSomeCity) (.operand grownUp))
  exact ⟨toLeft, toRight, (chain_translation .and).2.1 _ _ _ toLeft toRight⟩

/-- The last operand is a chain of its own, so its operands are operands of the whole chain. -/
example : (Condition.and visible (.and inSomeCity grownUp)).operands .and =
    [visible, inSomeCity, compareWith "Age" .greater (.int 18), .column "IsActive"] :=
  rfl

end Condition

end SqlCompiler
