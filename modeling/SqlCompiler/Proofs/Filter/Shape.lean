import SqlCompiler.Filter.Hash

/-!
# The shape of a filter

Items have the same shape if they correspond one by one: comparators by name,
comparison, declared type and kind, and groups by conjunction, negation and the
shapes of their items.  This is an equivalence relation, a change that keeps
the shapes of the comparators keeps it, and all hashes are functions of it.
-/

namespace SqlCompiler

namespace FilterItems

/-- Items that correspond one by one and at all depths. -/
inductive SameShape : FilterItems → FilterItems → Prop where
  | nil : SameShape .nil .nil
  | leaf {first second : Comparator} {rest others : FilterItems}
      (same : first.shape = second.shape) (behind : SameShape rest others) :
      SameShape (.leaf first rest) (.leaf second others)
  | group {conjunction : Conjunction} {negated : Bool} {items inner rest others : FilterItems}
      (inside : SameShape items inner) (behind : SameShape rest others) :
      SameShape (.group conjunction negated items rest) (.group conjunction negated inner others)

namespace SameShape

variable {first second third : FilterItems}

theorem refl (items : FilterItems) : SameShape items items := by
  induction items with
  | nil => exact .nil
  | leaf comparator rest ih => exact .leaf rfl ih
  | group conjunction negated inner rest innerIH restIH => exact .group innerIH restIH

theorem symm (same : SameShape first second) : SameShape second first := by
  induction same with
  | nil => exact .nil
  | leaf same _ ih => exact .leaf same.symm ih
  | group _ _ insideIH behindIH => exact .group insideIH behindIH

theorem trans (same : SameShape first second) (next : SameShape second third) :
    SameShape first third := by
  induction same generalizing third with
  | nil => exact next
  | leaf same _ ih =>
      cases next with
      | leaf other behind => exact .leaf (same.trans other) (ih behind)
  | group _ _ insideIH behindIH =>
      cases next with
      | group inside behind => exact .group (insideIH inside) (behindIH behind)

theorem hashes_eq (same : SameShape first second) (hasher : ShapeHasher) :
    first.hashes hasher = second.hashes hasher := by
  induction same with
  | nil => rfl
  | leaf same _ ih => simp only [hashes, ShapeHasher.ofComparator, same, ih]
  | group _ _ insideIH behindIH => simp only [hashes, insideIH, behindIH]

theorem length_eq (same : SameShape first second) : first.length = second.length := by
  induction same with
  | nil => rfl
  | leaf _ _ ih => simp only [length, ih]
  | group _ _ _ behindIH => simp only [length, behindIH]

end SameShape

/-- Values and low lines are no part of a shape. -/
theorem sameShape_mapComparators {change : Comparator → Comparator}
    (keeps : ∀ comparator, (change comparator).shape = comparator.shape) (items : FilterItems) :
    SameShape items (items.mapComparators change) := by
  induction items with
  | nil => exact .nil
  | leaf comparator rest ih => exact .leaf (keeps comparator).symm ih
  | group conjunction negated inner rest innerIH restIH => exact .group innerIH restIH

@[simp]
theorem sameShape_leaf_iff {first second : Comparator} {rest others : FilterItems} :
    SameShape (.leaf first rest) (.leaf second others) ↔
      first.shape = second.shape ∧ SameShape rest others := by
  constructor
  · intro same
    cases same with
    | leaf same behind => exact ⟨same, behind⟩
  · rintro ⟨same, behind⟩
    exact .leaf same behind

@[simp]
theorem sameShape_group_iff {conjunction other : Conjunction} {negated negated' : Bool}
    {items inner rest others : FilterItems} :
    SameShape (.group conjunction negated items rest) (.group other negated' inner others) ↔
      conjunction = other ∧ negated = negated' ∧ SameShape items inner ∧
        SameShape rest others := by
  constructor
  · intro same
    cases same with
    | group inside behind => exact ⟨rfl, rfl, inside, behind⟩
  · rintro ⟨rfl, rfl, inside, behind⟩
    exact .group inside behind

@[simp]
theorem not_sameShape_leaf_group {comparator : Comparator} {conjunction : Conjunction}
    {negated : Bool} {rest inner others : FilterItems} :
    ¬ SameShape (.leaf comparator rest) (.group conjunction negated inner others) := by
  intro same
  cases same

@[simp]
theorem not_sameShape_group_leaf {comparator : Comparator} {conjunction : Conjunction}
    {negated : Bool} {rest inner others : FilterItems} :
    ¬ SameShape (.group conjunction negated inner others) (.leaf comparator rest) := by
  intro same
  cases same

/-- The test for equal shapes looks at nothing else. -/
theorem sameShape_eq_true_iff (first second : FilterItems) :
    first.sameShape second = true ↔ SameShape first second := by
  induction first generalizing second with
  | nil =>
      cases second with
      | nil => exact ⟨fun _ => .nil, fun _ => rfl⟩
      | leaf | group => constructor <;> intro same <;> cases same
  | leaf comparator rest ih =>
      cases second with
      | leaf other others =>
          rw [sameShape, Bool.and_eq_true, Comparator.beq_iff_shape_eq, ih, sameShape_leaf_iff]
      | nil | group => constructor <;> intro same <;> cases same
  | group conjunction negated inner rest innerIH restIH =>
      cases second with
      | group other negated' inner' others =>
          rw [sameShape, Bool.and_eq_true, Bool.and_eq_true, Bool.and_eq_true, beq_iff_eq,
            beq_iff_eq, innerIH, restIH, sameShape_group_iff, and_assoc, and_assoc]
      | nil | leaf => constructor <;> intro same <;> cases same

end FilterItems

namespace Filter

open FilterItems

/-- Two filters are equal exactly when they have the same shape. -/
theorem beq_iff_sameShape (first second : Filter) :
    (first == second) = true ↔ SameShape first.asItem second.asItem := by
  have decided : (first == second) =
      (first.conjunction == second.conjunction && first.negated == second.negated &&
        first.items.sameShape second.items) := rfl
  rw [decided, Bool.and_eq_true, Bool.and_eq_true, beq_iff_eq, beq_iff_eq,
    sameShape_eq_true_iff, asItem, asItem, sameShape_group_iff, and_assoc]
  simp only [SameShape.refl, and_true]

end Filter

end SqlCompiler
