import SqlCompiler.Proofs.Condition.Interpretation
import SqlCompiler.Proofs.Filter.Reading

/-!
# The filter of a condition means the condition

Under every interpretation a condition and its filter have the same truth
value, with nulls and without.  Joined operands are spread over one group only
when they have the conjunction of that group, and a group that is spread is
never a negated one.
-/

namespace SqlCompiler

namespace FilterItems

theorem isEmpty_append (first second : FilterItems) :
    (first ++ second).isEmpty = (first.isEmpty && second.isEmpty) := by
  simp only [isEmpty_iff_comparators, comparators_append]
  cases first.comparators <;> rfl

variable {Truth : Type} (logic : Logic Truth)

theorem truths_append (assignment : Nat → Truth) (first second : FilterItems) (place : Nat) :
    (first ++ second).truths logic assignment place =
      first.truths logic assignment place ++
        second.truths logic assignment (place + first.comparators.length) := by
  induction first generalizing place with
  | nil => rfl
  | leaf comparator rest ih =>
      simp [truths, comparators, ih, Nat.add_assoc, Nat.add_comm 1]
  | group conjunction negated inner rest _ ih =>
      simp [truths, comparators, ih, Nat.add_assoc]

theorem truths_ne_nil (assignment : Nat → Truth) {items : FilterItems}
    (nonempty : items.isEmpty = false) (place : Nat) :
    items.truths logic assignment place ≠ [] := by
  induction items generalizing place with
  | nil => simp [isEmpty] at nonempty
  | leaf comparator rest _ => simp [truths]
  | group conjunction negated inner rest _ ih =>
      cases empty : inner.isEmpty with
      | false => simp [truths, empty]
      | true =>
          have later : rest.isEmpty = false := by simpa [isEmpty, empty] using nonempty
          simp [truths, ih later]

/-- An assignment gives the leaves behind a place what their comparators mean. -/
def Reads (meaning : Interpretation Truth) (assignment : Nat → Truth) (items : FilterItems)
    (place : Nat) : Prop :=
  (List.range' place items.comparators.length).map assignment =
    items.comparators.map meaning.comparator

/-- The items hold a leaf and, joined by a conjunction, have a truth value wherever they stand. -/
def Mean (meaning : Interpretation Truth) (conjunction : Conjunction) (items : FilterItems)
    (truth : Truth) : Prop :=
  items.isEmpty = false ∧ ∀ assignment place, Reads meaning assignment items place →
    logic.combineAll conjunction (items.truths logic assignment place) = truth

end FilterItems

open FilterItems

/-- The filter holds a leaf and has a truth value wherever its items stand. -/
def Filter.Means {Truth : Type} (logic : Logic Truth) (meaning : Interpretation Truth)
    (filter : Filter) (truth : Truth) : Prop :=
  filter.items.isEmpty = false ∧
    ∀ assignment place, Reads meaning assignment filter.items place →
      logic.group filter.conjunction filter.negated (filter.items.truths logic assignment place) =
        truth

section Means

variable {Truth : Type} {logic : Logic Truth} {meaning : Interpretation Truth}
  {conjunction : Conjunction} {truth other : Truth}

theorem FilterItems.mean_leaf (comparator : Comparator) :
    Mean logic meaning conjunction (.leaf comparator .nil) (meaning.comparator comparator) := by
  refine ⟨rfl, fun assignment place reads => ?_⟩
  have value : assignment place = meaning.comparator comparator := by
    simpa [Reads, comparators] using reads
  simp [truths, value]

theorem FilterItems.Mean.append {first second : FilterItems}
    (front : Mean logic meaning conjunction first truth)
    (back : Mean logic meaning conjunction second other) :
    Mean logic meaning conjunction (first ++ second) (logic.combine conjunction truth other) := by
  refine ⟨by simp [isEmpty_append, front.1], fun assignment place reads => ?_⟩
  unfold Reads at reads
  rw [comparators_append, List.length_append, ← List.range'_append_1, List.map_append,
    List.map_append] at reads
  obtain ⟨frontReads, backReads⟩ := List.append_inj reads (by simp)
  rw [truths_append, logic.combineAll_append _ (truths_ne_nil logic assignment front.1 place),
    front.2 assignment place frontReads, back.2 assignment _ backReads]

theorem FilterItems.Mean.filter {items : FilterItems}
    (mean : Mean logic meaning conjunction items truth) :
    Filter.Means logic meaning { conjunction, items } truth :=
  mean

theorem Filter.Means.asItem {filter : Filter} (means : filter.Means logic meaning truth) :
    Mean logic meaning conjunction filter.asItem truth := by
  refine ⟨by simp [Filter.asItem, FilterItems.isEmpty, means.1], ?_⟩
  intro assignment place reads
  have inside : Reads meaning assignment filter.items place := by
    simpa [Reads, Filter.asItem, FilterItems.comparators] using reads
  simp [Filter.asItem, truths, means.1, means.2 assignment place inside]

/-- A group is turned around once more, which undoes an earlier negation. -/
theorem Filter.Means.negate (involutive : ∀ truth, logic.negation (logic.negation truth) = truth)
    {filter : Filter} (means : filter.Means logic meaning truth) :
    filter.negate.Means logic meaning (logic.negation truth) := by
  refine ⟨means.1, fun assignment place reads => ?_⟩
  rw [← means.2 assignment place reads]
  obtain ⟨conjunction, negated, items⟩ := filter
  cases negated with
  | false => rfl
  | true => exact (involutive _).symm

end Means

namespace Condition

variable {Truth : Type} (logic : Logic Truth) (meaning : Interpretation Truth)

def truth : Condition → Truth
  | .and left right => logic.combine .and left.truth right.truth
  | .or left right => logic.combine .or left.truth right.truth
  | .not condition => logic.negation condition.truth
  | .compare left relation right => meaning.leaf (.compare left relation right)
  | .column name => meaning.leaf (.column name)
  | .call function target arguments => meaning.leaf (.call function target arguments)

@[simp]
theorem truth_leaf (leaf : Leaf) : leaf.condition.truth logic meaning = meaning.leaf leaf := by
  cases leaf <;> rfl

@[simp]
theorem truth_join (conjunction : Conjunction) (left right : Condition) :
    (join conjunction left right).truth logic meaning =
      logic.combine conjunction (left.truth logic meaning) (right.truth logic meaning) := by
  cases conjunction <;> rfl

variable {logic meaning}

/-- The filter of a condition and the items it adds to a group have its truth value. -/
theorem means_translation
    (involutive : ∀ truth, logic.negation (logic.negation truth) = truth)
    (condition : Condition) :
    (∀ filter, condition.toFilter = .ok filter →
      filter.Means logic meaning (condition.truth logic meaning)) ∧
    (∀ conjunction items, condition.operandItems conjunction = .ok items →
      Mean logic meaning conjunction items (condition.truth logic meaning)) := by
  induction condition using shapeInduction with
  | leaf leaf =>
      rw [truth_leaf]
      constructor
      · intro filter translated
        rw [toFilter_leaf] at translated
        obtain ⟨comparator, leafTranslated, rfl⟩ := map_eq_ok_iff.mp translated
        rw [← meaning.comparator_of_translate leafTranslated]
        exact (mean_leaf comparator).filter
      · intro conjunction items translated
        rw [operandItems_leaf] at translated
        obtain ⟨comparator, leafTranslated, rfl⟩ := map_eq_ok_iff.mp translated
        rw [← meaning.comparator_of_translate leafTranslated]
        exact mean_leaf comparator
  | join conjunction left right leftIH rightIH =>
      rw [truth_join]
      constructor
      · intro filter translated
        rw [toFilter_join] at translated
        obtain ⟨first, firstTranslated, translated⟩ := bind_eq_ok_iff.mp translated
        obtain ⟨second, secondTranslated, translated⟩ := bind_eq_ok_iff.mp translated
        cases translated
        exact ((leftIH.2 _ first firstTranslated).append
          (rightIH.2 _ second secondTranslated)).filter
      · intro outer items translated
        rw [operandItems_join] at translated
        obtain ⟨first, firstTranslated, translated⟩ := bind_eq_ok_iff.mp translated
        obtain ⟨second, secondTranslated, translated⟩ := bind_eq_ok_iff.mp translated
        have joined := (leftIH.2 _ first firstTranslated).append
          (rightIH.2 _ second secondTranslated)
        cases translated
        split
        next same => exact same ▸ joined
        next => exact joined.filter.asItem
  | not condition ih =>
      constructor
      · intro filter translated
        rw [toFilter_not] at translated
        obtain ⟨inner, innerTranslated, rfl⟩ := map_eq_ok_iff.mp translated
        exact (ih.1 inner innerTranslated).negate involutive
      · intro outer items translated
        rw [operandItems_not] at translated
        obtain ⟨inner, innerTranslated, rfl⟩ := map_eq_ok_iff.mp translated
        exact ((ih.1 inner innerTranslated).negate involutive).asItem

theorem truth_toFilter_of_involutive
    (involutive : ∀ truth, logic.negation (logic.negation truth) = truth) {condition : Condition}
    {filter : Filter} (translated : condition.toFilter = .ok filter) :
    filter.truth logic (meaning.assignment logic filter.comparators) =
      condition.truth logic meaning :=
  ((means_translation involutive condition).1 filter translated).2 _ 0
    (meaning.map_assignment logic filter.comparators)

/--
The filter of a condition has the leaves of the condition, translated one by
one and in their order, and it is true of the same rows.  This holds in the
logic without nulls and in the one with them.
-/
theorem truth_toFilter {condition : Condition} {filter : Filter}
    (translated : condition.toFilter = .ok filter) :
    condition.leaves.mapM Leaf.translate = .ok filter.comparators ∧
      (∀ meaning : Interpretation Bool,
        filter.truth .twoValued (meaning.assignment .twoValued filter.comparators) =
          condition.truth .twoValued meaning) ∧
      (∀ meaning : Interpretation SqlTruth,
        filter.truth .threeValued (meaning.assignment .threeValued filter.comparators) =
          condition.truth .threeValued meaning) := by
  refine ⟨?_, fun meaning => ?_, fun meaning => ?_⟩
  · rw [← map_comparators_toFilter, translated]
    rfl
  · exact truth_toFilter_of_involutive Bool.not_not translated
  · exact truth_toFilter_of_involutive (by rintro (_ | _ | _) <;> rfl) translated

/-- Nested negations, operands of both conjunctions, and bounds from either side. -/
def nestedSample : Condition :=
  .not (.or
    (.and (.compare (.constant (.int 18)) .lessOrEqual (.column "Age"))
      (.and (.compare (.column "Age") .lessOrEqual (.constant (.int 65)))
        (.and (.column "IsActive") (.or (contains "Name" "50%") (isNull "Name")))))
    (.or (.not (.compare (.column "Level") .greaterOrEqual (.constant (.int 3))))
      (.call "Contains" (.constant (.list [.int 1, .int 2])) [.column "Id"])))

def nestedSampleFilter : Filter where
  conjunction := .or
  negated := true
  items :=
    .group .and false
      (.leaf { field := { name := "Age" }, comparison := .greaterThanOrEqual,
               value := .int 18, kind := .plain }
        (.leaf { field := { name := "Age" }, comparison := .lessThanOrEqual,
                 value := .int 65, kind := .plain }
          (.leaf { field := { name := "IsActive" }, comparison := .equal,
                   value := .bool true, kind := .plain }
            (.group .or false
              (.leaf { field := { name := "Name" }, comparison := .like,
                       value := .text "%50%%", kind := .plain }
                (.leaf { field := { name := "Name" }, comparison := .equal,
                         value := .null, kind := .plain } .nil)) .nil))))
      (.group .and true
        (.leaf { field := { name := "Level" }, comparison := .greaterThanOrEqual,
                 value := .int 3, kind := .plain } .nil)
        (.leaf { field := { name := "Id" }, comparison := .oneOf,
                 value := .list [.int 1, .int 2], kind := .plain } .nil))

theorem truth_toFilter_nestedSample :
    nestedSample.toFilter = .ok nestedSampleFilter ∧
      nestedSample.leaves.mapM Leaf.translate = .ok nestedSampleFilter.comparators ∧
      (∀ meaning : Interpretation Bool,
        nestedSampleFilter.truth .twoValued
            (meaning.assignment .twoValued nestedSampleFilter.comparators) =
          nestedSample.truth .twoValued meaning) ∧
      (∀ meaning : Interpretation SqlTruth,
        nestedSampleFilter.truth .threeValued
            (meaning.assignment .threeValued nestedSampleFilter.comparators) =
          nestedSample.truth .threeValued meaning) := by
  have translated : nestedSample.toFilter = .ok nestedSampleFilter := rfl
  exact ⟨translated, truth_toFilter translated⟩

/-- Bounds that are written as such hold of the number itself. -/
example : (Condition.and (.compare (.constant (.int 18)) .lessOrEqual (.column "Age"))
    (.compare (.column "Age") .lessOrEqual (.constant (.int 18)))).truth
      .threeValued (.ofNumbers fun _ => .int 18) = .holds := by
  decide +kernel

/-- A comparison with a null is unknown, and so is its negation. -/
example : (Condition.not (.compare (.constant (.int 18)) .less (.column "Age"))).truth
    .threeValued (.ofNumbers fun _ => .null) = .unknown := by
  decide +kernel

end Condition

end SqlCompiler
