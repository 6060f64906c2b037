import SqlCompiler.Filter.Remembered
import SqlCompiler.Proofs.Filter.Shape

/-!
# Remembered hashes are true

A memory is true if it is empty or holds the hash of what it belongs to as that
stands now.  Asking for hashes and comparing fill memories with true hashes
only and change nothing else, and what is built from things with true memories
has true memories again.  Where all memories are true, a hash is the hash of
the shape, and a comparison finds out whether the shapes are the same.
-/

namespace SqlCompiler

variable {hasher : ShapeHasher}

namespace HashMemory

/-- The memory is empty or holds a hash. -/
def Holds (memory : HashMemory) (own : UInt64) : Prop :=
  memory.word = 0 ∨ memory.word = own

theorem holds_empty (own : UInt64) : Holds {} own :=
  .inl rfl

/-- Consulting gives the hash that may be held, and holds it from then on. -/
theorem consult_of_holds {memory : HashMemory} {computed : UInt64}
    (holds : memory.Holds (ShapeHasher.nonzero computed)) :
    (memory.consult computed).1 = ShapeHasher.nonzero computed ∧
      (memory.consult computed).2.Holds (ShapeHasher.nonzero computed) := by
  unfold consult
  by_cases empty : memory.word = 0
  · rw [if_pos empty]
    exact ⟨rfl, .inr rfl⟩
  · rw [if_neg empty]
    have held : memory.word = ShapeHasher.nonzero computed := holds.resolve_left empty
    exact ⟨held, holds⟩

end HashMemory

/-! ## Truth at all depths -/

def RememberedComparator.Truthful (hasher : ShapeHasher) (leaf : RememberedComparator) : Prop :=
  leaf.memory.Holds (hasher.ofComparator leaf.comparator)

/-- Every memory among the items, at whatever depth, is empty or holds the present hash. -/
def RememberedItems.Truthful (hasher : ShapeHasher) : RememberedItems → Prop
  | .nil => True
  | .leaf front rest => front.Truthful hasher ∧ rest.Truthful hasher
  | .group conjunction negated memory items rest =>
      memory.Holds (hasher.ofGroup conjunction negated (items.forget.hashes hasher)) ∧
        items.Truthful hasher ∧ rest.Truthful hasher

def RememberedFilter.Truthful (hasher : ShapeHasher) (filter : RememberedFilter) : Prop :=
  filter.memory.Holds (filter.forget.shapeHash hasher) ∧ filter.items.Truthful hasher

def RememberedItem.Truthful (hasher : ShapeHasher) : RememberedItem → Prop
  | .leaf front => front.Truthful hasher
  | .group filter => filter.Truthful hasher

/-! ## Asking for hashes -/

theorem RememberedComparator.hashed_of_truthful {leaf : RememberedComparator}
    (truthful : leaf.Truthful hasher) :
    (leaf.hashed hasher).1 = hasher.ofComparator leaf.comparator ∧
      (leaf.hashed hasher).2.Truthful hasher :=
  HashMemory.consult_of_holds truthful

namespace RememberedFilter

variable {filter : RememberedFilter} {inner : List UInt64 × RememberedItems}

theorem forget_consult (same : inner.2.forget = filter.items.forget) :
    (filter.consult hasher inner).2.forget = filter.forget := by
  simp only [consult, forget]
  split <;> simp [same]

theorem consult_of_truthful (truthful : filter.Truthful hasher)
    (hashes : inner.1 = filter.items.forget.hashes hasher)
    (same : inner.2.forget = filter.items.forget) (innerTruthful : inner.2.Truthful hasher) :
    (filter.consult hasher inner).1 = filter.forget.shapeHash hasher ∧
      (filter.consult hasher inner).2.Truthful hasher := by
  obtain ⟨holds, itemsTruthful⟩ := truthful
  have computed : ShapeHasher.nonzero
      (hasher.group filter.conjunction filter.negated inner.1) =
        filter.forget.shapeHash hasher := by
    rw [hashes]
    rfl
  rw [← computed] at holds
  obtain ⟨consulted, heldAfter⟩ := HashMemory.consult_of_holds holds
  refine ⟨consulted.trans computed, ?_, ?_⟩
  · rw [forget_consult same, ← computed]
    exact heldAfter
  · -- The items were asked only if the group remembered nothing.
    change RememberedItems.Truthful hasher
      (if filter.memory.word = 0 then inner.2 else filter.items)
    split
    · exact innerTruthful
    · exact itemsTruthful

end RememberedFilter

namespace RememberedItems

@[simp]
theorem forget_hashes (items : RememberedItems) :
    (items.hashes hasher).2.forget = items.forget := by
  induction items with
  | nil => rfl
  | leaf front rest ih =>
      simp only [hashes, forget, ih]
      rfl
  | group conjunction negated memory inner rest innerIH restIH =>
      have same : (RememberedFilter.consult { conjunction, negated, memory, items := inner } hasher
          (inner.hashes hasher)).2.forget =
            RememberedFilter.forget { conjunction, negated, memory, items := inner } :=
        RememberedFilter.forget_consult innerIH
      simp only [RememberedFilter.forget, Filter.mk.injEq] at same
      obtain ⟨sameConjunction, sameNegation, sameItems⟩ := same
      simp only [hashes, RememberedItem.inFrontOf, forget, restIH, sameConjunction,
        sameNegation, sameItems]

/-- Items with true memories give the hashes of their shapes and keep true memories. -/
theorem hashes_of_truthful {items : RememberedItems} (truthful : items.Truthful hasher) :
    (items.hashes hasher).1 = items.forget.hashes hasher ∧
      (items.hashes hasher).2.Truthful hasher := by
  induction items with
  | nil => exact ⟨rfl, trivial⟩
  | leaf front rest ih =>
      obtain ⟨frontTruthful, restTruthful⟩ := truthful
      obtain ⟨own, frontAfter⟩ := RememberedComparator.hashed_of_truthful frontTruthful
      obtain ⟨others, restAfter⟩ := ih restTruthful
      refine ⟨?_, frontAfter, restAfter⟩
      simp only [hashes, forget, FilterItems.hashes, own, others]
  | group conjunction negated memory inner rest innerIH restIH =>
      obtain ⟨holds, innerTruthful, restTruthful⟩ := truthful
      obtain ⟨innerHashes, innerAfter⟩ := innerIH innerTruthful
      obtain ⟨others, restAfter⟩ := restIH restTruthful
      let filter : RememberedFilter := { conjunction, negated, memory, items := inner }
      have filterTruthful : filter.Truthful hasher := ⟨holds, innerTruthful⟩
      obtain ⟨own, heldAfter, itemsAfter⟩ :=
        RememberedFilter.consult_of_truthful filterTruthful innerHashes (forget_hashes inner)
          innerAfter
      refine ⟨?_, heldAfter, itemsAfter, restAfter⟩
      simp only [hashes, forget, FilterItems.hashes, others]
      rw [own]
      rfl

end RememberedItems

namespace RememberedFilter

variable {filter : RememberedFilter}

theorem forget_hashed (filter : RememberedFilter) :
    (filter.hashed hasher).2.forget = filter.forget :=
  forget_consult (RememberedItems.forget_hashes filter.items)

theorem hashed_of_truthful (truthful : filter.Truthful hasher) :
    (filter.hashed hasher).1 = filter.forget.shapeHash hasher ∧
      (filter.hashed hasher).2.Truthful hasher := by
  obtain ⟨hashes, after⟩ := RememberedItems.hashes_of_truthful truthful.2
  exact consult_of_truthful truthful hashes (RememberedItems.forget_hashes filter.items) after

end RememberedFilter

/-! ## Comparing -/

/--
A comparison finds out whether two things have the same shape, and leaves both
with their shapes and with true memories.
-/
structure Compared.Settles {α : Type} (shape : α → FilterItems) (truthful : α → Prop)
    (first second : α) (compared : Compared α) : Prop where
  same_iff : compared.same = true ↔ (shape first).SameShape (shape second)
  shape_first : shape compared.first = shape first
  shape_second : shape compared.second = shape second
  truthful_first : truthful compared.first
  truthful_second : truthful compared.second

namespace RememberedItem

abbrev Settles (hasher : ShapeHasher) : RememberedItem → RememberedItem →
    Compared RememberedItem → Prop :=
  Compared.Settles forget (Truthful hasher)

theorem forget_inFrontOf (item : RememberedItem) (rest : RememberedItems) :
    (item.inFrontOf rest).forget = item.forget ++ rest.forget := by
  cases item <;> rfl

theorem truthful_inFrontOf_iff {item : RememberedItem} {rest : RememberedItems} :
    (item.inFrontOf rest).Truthful hasher ↔ item.Truthful hasher ∧ rest.Truthful hasher := by
  cases item with
  | leaf front => rfl
  | group filter => exact and_assoc.symm

/-- Items have the same shape as others if their first ones have and those behind them have. -/
theorem sameShape_inFrontOf_iff {first second : RememberedItem} {rest others : RememberedItems} :
    (first.inFrontOf rest).forget.SameShape (second.inFrontOf others).forget ↔
      first.forget.SameShape second.forget ∧ rest.forget.SameShape others.forget := by
  have ends : FilterItems.SameShape .nil .nil := .nil
  cases first with
  | leaf front =>
      cases second with
      | leaf other => simp [inFrontOf, forget, RememberedItems.forget, ends]
      | group other => simp [inFrontOf, forget, RememberedItems.forget]
  | group filter =>
      cases second with
      | leaf other => simp [inFrontOf, forget, RememberedItems.forget]
      | group other => simp [inFrontOf, forget, RememberedItems.forget, ends, and_assoc]

end RememberedItem

abbrev RememberedItems.Settles (hasher : ShapeHasher) : RememberedItems → RememberedItems →
    Compared RememberedItems → Prop :=
  Compared.Settles RememberedItems.forget (RememberedItems.Truthful hasher)

/-- Two comparators are the same if their shapes are; then their hashes are as well. -/
theorem RememberedComparator.settles_compare {first second : RememberedComparator}
    (firstTruthful : first.Truthful hasher) (secondTruthful : second.Truthful hasher) :
    RememberedItem.Settles hasher (.leaf first) (.leaf second)
      ((first.compare second hasher).map .leaf) := by
  obtain ⟨own, firstAfter⟩ := hashed_of_truthful firstTruthful
  obtain ⟨other, secondAfter⟩ := hashed_of_truthful secondTruthful
  have ends : FilterItems.SameShape .nil .nil := .nil
  refine ⟨?_, rfl, rfl, firstAfter, secondAfter⟩
  simp only [compare, Compared.map, own, other, RememberedItem.forget, RememberedItem.inFrontOf,
    RememberedItems.forget, FilterItems.sameShape_leaf_iff, Bool.and_eq_true, beq_iff_eq, ends,
    and_true]
  constructor
  · rintro ⟨-, same⟩
    exact (Comparator.beq_iff_shape_eq _ _).mp same
  · intro same
    refine ⟨?_, (Comparator.beq_iff_shape_eq _ _).mpr same⟩
    rw [ShapeHasher.ofComparator, ShapeHasher.ofComparator, same]

@[simp]
theorem RememberedItems.length_forget (items : RememberedItems) :
    items.forget.length = items.length := by
  induction items with
  | nil => rfl
  | leaf front rest ih => simp only [forget, FilterItems.length, length, ih]
  | group conjunction negated memory inner rest _ ih =>
      simp only [forget, FilterItems.length, length, ih]

namespace RememberedFilter

variable {first second : RememberedFilter}

/-- Filters of the same shape have the same hash, so they agree before their items are compared. -/
theorem heads_of_sameShape {own other : UInt64}
    (firstHash : own = first.forget.shapeHash hasher)
    (secondHash : other = second.forget.shapeHash hasher)
    (same : (RememberedItem.group first).forget.SameShape (RememberedItem.group second).forget) :
    (own == other && first.conjunction == second.conjunction &&
      first.negated == second.negated && first.items.length == second.items.length) = true := by
  obtain ⟨conjunction, negated, inside, -⟩ := FilterItems.sameShape_group_iff.mp same
  have hashes : own = other := by
    rw [firstHash, secondHash]
    simp only [Filter.shapeHash, forget, conjunction, negated, inside.hashes_eq hasher]
  have lengths : first.items.length = second.items.length := by
    rw [← RememberedItems.length_forget, ← RememberedItems.length_forget]
    exact inside.length_eq
  simp only [hashes, conjunction, negated, lengths, BEq.rfl, Bool.and_self]

theorem truthful_withItems {items : RememberedItems} (truthful : first.Truthful hasher)
    (same : items.forget = first.items.forget) (itemsTruthful : items.Truthful hasher) :
    Truthful hasher { first with items } := by
  refine ⟨?_, itemsTruthful⟩
  have shape : forget { first with items } = first.forget := by
    simp only [forget, same]
  rw [shape]
  exact truthful.1

/-- Two filters are the same if they agree so far and a look at their items says so. -/
theorem settles_agree {inner : Compared RememberedItems} {own other : UInt64}
    (firstTruthful : first.Truthful hasher) (secondTruthful : second.Truthful hasher)
    (firstHash : own = first.forget.shapeHash hasher)
    (secondHash : other = second.forget.shapeHash hasher)
    (settles : RememberedItems.Settles hasher first.items second.items inner) :
    RememberedItem.Settles hasher (.group first) (.group second)
      ((agree (own, first) (other, second) inner).map .group) := by
  have ends : FilterItems.SameShape .nil .nil := .nil
  by_cases heads : (own == other && first.conjunction == second.conjunction &&
      first.negated == second.negated && first.items.length == second.items.length) = true
  · rw [agree, if_pos heads]
    simp only [Bool.and_eq_true, beq_iff_eq] at heads
    obtain ⟨⟨⟨-, conjunction⟩, negated⟩, -⟩ := heads
    refine ⟨?_, ?_, ?_, ?_, ?_⟩
    · simp only [Compared.map, RememberedItem.forget, RememberedItem.inFrontOf,
        RememberedItems.forget, FilterItems.sameShape_group_iff, conjunction, negated, ends,
        settles.same_iff, true_and, and_true]
    · simp only [Compared.map, RememberedItem.forget, RememberedItem.inFrontOf,
        RememberedItems.forget, settles.shape_first]
    · simp only [Compared.map, RememberedItem.forget, RememberedItem.inFrontOf,
        RememberedItems.forget, settles.shape_second]
    · exact truthful_withItems firstTruthful settles.shape_first settles.truthful_first
    · exact truthful_withItems secondTruthful settles.shape_second settles.truthful_second
  · rw [agree, if_neg heads]
    refine ⟨?_, rfl, rfl, firstTruthful, secondTruthful⟩
    constructor
    · intro found
      cases found
    · intro same
      exact absurd (heads_of_sameShape firstHash secondHash same) heads

/-- What is settled about two filters that were asked for their hashes is settled about them. -/
theorem settles_of_hashed {compared : Compared RememberedItem}
    (settles : RememberedItem.Settles hasher (.group (first.hashed hasher).2)
      (.group (second.hashed hasher).2) compared) :
    RememberedItem.Settles hasher (.group first) (.group second) compared := by
  have firstShape : (RememberedItem.group (first.hashed hasher).2).forget =
      (RememberedItem.group first).forget := congrArg Filter.asItem first.forget_hashed
  have secondShape : (RememberedItem.group (second.hashed hasher).2).forget =
      (RememberedItem.group second).forget := congrArg Filter.asItem second.forget_hashed
  obtain ⟨same, shapeFirst, shapeSecond, truthfulFirst, truthfulSecond⟩ := settles
  rw [firstShape, secondShape] at same
  exact ⟨same, shapeFirst.trans firstShape, shapeSecond.trans secondShape, truthfulFirst,
    truthfulSecond⟩

/-- A look at two filters is settled if the look at their items, as these are by then, is. -/
theorem settles_asked {inner : Compared RememberedItems} (firstTruthful : first.Truthful hasher)
    (secondTruthful : second.Truthful hasher)
    (inside : (first.hashed hasher).2.items.Truthful hasher →
      (second.hashed hasher).2.items.Truthful hasher →
      RememberedItems.Settles hasher (first.hashed hasher).2.items
        (second.hashed hasher).2.items inner) :
    RememberedItem.Settles hasher (.group first) (.group second)
      ((agree (first.hashed hasher) (second.hashed hasher) inner).map .group) := by
  obtain ⟨own, firstAfter⟩ := hashed_of_truthful firstTruthful
  obtain ⟨other, secondAfter⟩ := hashed_of_truthful secondTruthful
  have firstHash : (first.hashed hasher).1 = (first.hashed hasher).2.forget.shapeHash hasher := by
    rw [own, forget_hashed]
  have secondHash :
      (second.hashed hasher).1 = (second.hashed hasher).2.forget.shapeHash hasher := by
    rw [other, forget_hashed]
  exact settles_of_hashed
    (settles_agree firstAfter secondAfter firstHash secondHash (inside firstAfter.2 secondAfter.2))

end RememberedFilter

namespace RememberedItems

variable {rest others : RememberedItems}

/-- What is settled about two items and about those behind them is settled about all. -/
theorem settles_andRest {first second : RememberedItem} {head : Compared RememberedItem}
    {behind : Compared RememberedItems} (restTruthful : rest.Truthful hasher)
    (othersTruthful : others.Truthful hasher)
    (headSettles : RememberedItem.Settles hasher first second head)
    (behindSettles : Settles hasher rest others behind) :
    Settles hasher (first.inFrontOf rest) (second.inFrontOf others)
      (head.andRest rest others behind) := by
  by_cases same : head.same = true
  · rw [Compared.andRest, if_pos same]
    have heads := headSettles.same_iff.mp same
    refine ⟨?_, ?_, ?_, ?_, ?_⟩
    · rw [RememberedItem.sameShape_inFrontOf_iff, ← behindSettles.same_iff]
      exact ⟨fun found => ⟨heads, found⟩, fun both => both.2⟩
    · rw [RememberedItem.forget_inFrontOf, RememberedItem.forget_inFrontOf,
        headSettles.shape_first, behindSettles.shape_first]
    · rw [RememberedItem.forget_inFrontOf, RememberedItem.forget_inFrontOf,
        headSettles.shape_second, behindSettles.shape_second]
    · exact RememberedItem.truthful_inFrontOf_iff.mpr
        ⟨headSettles.truthful_first, behindSettles.truthful_first⟩
    · exact RememberedItem.truthful_inFrontOf_iff.mpr
        ⟨headSettles.truthful_second, behindSettles.truthful_second⟩
  · rw [Compared.andRest, if_neg same]
    refine ⟨?_, ?_, ?_, ?_, ?_⟩
    · rw [RememberedItem.sameShape_inFrontOf_iff]
      constructor
      · intro found
        cases found
      · rintro ⟨heads, -⟩
        exact absurd (headSettles.same_iff.mpr heads) same
    · rw [RememberedItem.forget_inFrontOf, RememberedItem.forget_inFrontOf,
        headSettles.shape_first]
    · rw [RememberedItem.forget_inFrontOf, RememberedItem.forget_inFrontOf,
        headSettles.shape_second]
    · exact RememberedItem.truthful_inFrontOf_iff.mpr ⟨headSettles.truthful_first, restTruthful⟩
    · exact RememberedItem.truthful_inFrontOf_iff.mpr
        ⟨headSettles.truthful_second, othersTruthful⟩

/--
A comparison of items with true memories is settled.

The induction follows the comparison, which goes on with the items as they are
after their groups were asked for hashes.
-/
theorem settles_compare {first second : RememberedItems} (firstTruthful : first.Truthful hasher)
    (secondTruthful : second.Truthful hasher) :
    Settles hasher first second (first.compare hasher second) := by
  induction first, second using RememberedItems.compare.induct hasher with
  | case1 =>
      rw [compare]
      exact ⟨⟨fun _ => .nil, fun _ => rfl⟩, rfl, rfl, trivial, trivial⟩
  | case2 front rest other others restIH =>
      rw [compare]
      exact settles_andRest firstTruthful.2 secondTruthful.2
        (RememberedComparator.settles_compare firstTruthful.1 secondTruthful.1)
        (restIH firstTruthful.2 secondTruthful.2)
  | case3 conjunction negated memory inner rest conjunction' negated' memory' inner' others
      filter other asked otherAsked innerIH restIH =>
      have filterTruthful : filter.Truthful hasher := ⟨firstTruthful.1, firstTruthful.2.1⟩
      have otherTruthful : other.Truthful hasher := ⟨secondTruthful.1, secondTruthful.2.1⟩
      have heads := RememberedFilter.settles_asked filterTruthful otherTruthful innerIH
      rw [compare]
      exact settles_andRest firstTruthful.2.2 secondTruthful.2.2 heads
        (restIH firstTruthful.2.2 secondTruthful.2.2)
  | case4 first second ended leaves groups =>
      rw [compare.eq_4 hasher first second ended leaves groups]
      refine ⟨?_, rfl, rfl, firstTruthful, secondTruthful⟩
      constructor
      · intro found
        cases found
      · intro same
        cases first with
        | nil =>
            cases second with
            | nil => exact (ended rfl rfl).elim
            | leaf | group => cases same
        | leaf =>
            cases second with
            | leaf => exact (leaves _ _ _ _ rfl rfl).elim
            | nil | group => cases same
        | group =>
            cases second with
            | group => exact (groups _ _ _ _ _ _ _ _ _ _ rfl rfl).elim
            | nil | leaf => cases same

end RememberedItems

namespace RememberedItem

theorem settles_compare {first second : RememberedItem} (firstTruthful : first.Truthful hasher)
    (secondTruthful : second.Truthful hasher) :
    Settles hasher first second (first.compare second hasher) := by
  cases first with
  | leaf front =>
      cases second with
      | leaf other => exact RememberedComparator.settles_compare firstTruthful secondTruthful
      | group other =>
          refine ⟨⟨?_, ?_⟩, rfl, rfl, firstTruthful, secondTruthful⟩ <;> intro same <;> cases same
  | group filter =>
      cases second with
      | leaf other =>
          refine ⟨⟨?_, ?_⟩, rfl, rfl, firstTruthful, secondTruthful⟩ <;> intro same <;> cases same
      | group other =>
          exact RememberedFilter.settles_asked firstTruthful secondTruthful
            RememberedItems.settles_compare

/-- Items of the same shape have the same hash, whatever is remembered. -/
theorem hashed_eq_of_sameShape {first second : RememberedItem}
    (firstTruthful : first.Truthful hasher) (secondTruthful : second.Truthful hasher)
    (same : first.forget.SameShape second.forget) :
    (first.hashed hasher).1 = (second.hashed hasher).1 := by
  cases first with
  | leaf front =>
      cases second with
      | leaf other =>
          have shape : front.comparator.shape = other.comparator.shape :=
            (FilterItems.sameShape_leaf_iff.mp same).1
          have own := (RememberedComparator.hashed_of_truthful firstTruthful).1
          have others := (RememberedComparator.hashed_of_truthful secondTruthful).1
          simp only [hashed, own, others, ShapeHasher.ofComparator, shape]
      | group other => cases same
  | group filter =>
      cases second with
      | leaf other => cases same
      | group other =>
          obtain ⟨conjunction, negated, inside, -⟩ := FilterItems.sameShape_group_iff.mp same
          have own := (RememberedFilter.hashed_of_truthful firstTruthful).1
          have others := (RememberedFilter.hashed_of_truthful secondTruthful).1
          simp only [hashed, own, others, Filter.shapeHash, RememberedFilter.forget, conjunction,
            negated, inside.hashes_eq hasher]

end RememberedItem

/-! ## Asking at a place -/

namespace RememberedItems

theorem forget_askAt (items : RememberedItems) (place : Nat) (path : List Nat) :
    (items.askAt hasher place path).forget = items.forget := by
  induction items generalizing place path with
  | nil => rfl
  | leaf front rest ih =>
      cases place with
      | zero => rfl
      | succ place => simp only [askAt, forget, ih]
  | group conjunction negated memory inner rest innerIH restIH =>
      cases place with
      | zero =>
          cases path with
          | nil =>
              have same : (RememberedFilter.hashed
                  { conjunction, negated, memory, items := inner } hasher).2.forget =
                    RememberedFilter.forget { conjunction, negated, memory, items := inner } :=
                RememberedFilter.forget_hashed _
              simp only [RememberedFilter.forget, Filter.mk.injEq] at same
              obtain ⟨sameConjunction, sameNegation, sameItems⟩ := same
              simp only [askAt, RememberedItem.inFrontOf, forget, sameConjunction, sameNegation,
                sameItems]
          | cons inside path => simp only [askAt, forget, innerIH]
      | succ place => simp only [askAt, forget, restIH]

theorem truthful_askAt {items : RememberedItems} (truthful : items.Truthful hasher) (place : Nat)
    (path : List Nat) : (items.askAt hasher place path).Truthful hasher := by
  induction items generalizing place path with
  | nil => exact truthful
  | leaf front rest ih =>
      cases place with
      | zero => exact ⟨(RememberedComparator.hashed_of_truthful truthful.1).2, truthful.2⟩
      | succ place => exact ⟨truthful.1, ih truthful.2 place path⟩
  | group conjunction negated memory inner rest innerIH restIH =>
      obtain ⟨holds, innerTruthful, restTruthful⟩ := truthful
      cases place with
      | zero =>
          cases path with
          | nil =>
              have filterTruthful : RememberedFilter.Truthful hasher
                  { conjunction, negated, memory, items := inner } := ⟨holds, innerTruthful⟩
              have after := (RememberedFilter.hashed_of_truthful filterTruthful).2
              exact ⟨after.1, after.2, restTruthful⟩
          | cons inside path =>
              refine ⟨?_, innerIH innerTruthful inside path, restTruthful⟩
              rw [forget_askAt]
              exact holds
      | succ place => exact ⟨holds, innerTruthful, restIH restTruthful place path⟩

end RememberedItems

namespace RememberedItem

theorem forget_askAt (item : RememberedItem) (path : List Nat) :
    (item.askAt hasher path).forget = item.forget := by
  cases item with
  | leaf front => rfl
  | group filter =>
      cases path with
      | nil => exact congrArg Filter.asItem filter.forget_hashed
      | cons place path =>
          simp only [askAt, RememberedFilter.askAt, forget, inFrontOf, RememberedItems.forget,
            RememberedItems.forget_askAt]

theorem truthful_askAt {item : RememberedItem} (truthful : item.Truthful hasher)
    (path : List Nat) : (item.askAt hasher path).Truthful hasher := by
  cases item with
  | leaf front => exact (RememberedComparator.hashed_of_truthful truthful).2
  | group filter =>
      cases path with
      | nil => exact (RememberedFilter.hashed_of_truthful truthful).2
      | cons place path =>
          exact RememberedFilter.truthful_withItems truthful
            (RememberedItems.forget_askAt filter.items place path)
            (RememberedItems.truthful_askAt truthful.2 place path)

end RememberedItem

/-! ## Building -/

namespace RememberedComparator

theorem truthful_fresh (comparator : Comparator) : (fresh comparator).Truthful hasher :=
  HashMemory.holds_empty _

theorem truthful_withType (leaf : RememberedComparator) (type : SqlType) :
    (leaf.withType type).Truthful hasher :=
  HashMemory.holds_empty _

/-- A low line keeps the shape, and so the memory may be kept. -/
theorem truthful_withUnderscore {leaf : RememberedComparator} (truthful : leaf.Truthful hasher) :
    leaf.withUnderscore.Truthful hasher :=
  truthful

end RememberedComparator

namespace RememberedItems

theorem forget_append (first second : RememberedItems) :
    (first ++ second).forget = first.forget ++ second.forget := by
  change (first.append second).forget = _
  induction first with
  | nil => rfl
  | leaf front rest ih => simp only [append, forget, ih, FilterItems.leaf_append]
  | group conjunction negated memory inner rest _ ih =>
      simp only [append, forget, ih, FilterItems.group_append]

theorem truthful_append {first second : RememberedItems} (truthful : first.Truthful hasher)
    (secondTruthful : second.Truthful hasher) : (first ++ second).Truthful hasher := by
  change (first.append second).Truthful hasher
  induction first with
  | nil => exact secondTruthful
  | leaf front rest ih => exact ⟨truthful.1, ih truthful.2⟩
  | group conjunction negated memory inner rest _ ih =>
      exact ⟨truthful.1, truthful.2.1, ih truthful.2.2⟩

theorem truthful_ofList {items : List RememberedItem}
    (truthful : ∀ item ∈ items, item.Truthful hasher) : (ofList items).Truthful hasher := by
  induction items with
  | nil => trivial
  | cons item rest ih =>
      rw [List.forall_mem_cons] at truthful
      exact RememberedItem.truthful_inFrontOf_iff.mpr ⟨truthful.1, ih truthful.2⟩

theorem forget_forUpdate (items : RememberedItems) :
    items.forUpdate.forget = items.forget.mapComparators Comparator.withUnderscore := by
  induction items with
  | nil => rfl
  | leaf front rest ih =>
      simp only [forUpdate, forget, FilterItems.mapComparators, ih]
      rfl
  | group conjunction negated memory inner rest innerIH restIH =>
      simp only [forUpdate, forget, FilterItems.mapComparators, innerIH, restIH]

/-- The comparators keep their memories, and the groups have new ones. -/
theorem truthful_forUpdate {items : RememberedItems} (truthful : items.Truthful hasher) :
    items.forUpdate.Truthful hasher := by
  induction items with
  | nil => trivial
  | leaf front rest ih =>
      exact ⟨RememberedComparator.truthful_withUnderscore truthful.1, ih truthful.2⟩
  | group conjunction negated memory inner rest innerIH restIH =>
      exact ⟨HashMemory.holds_empty _, innerIH truthful.2.1, restIH truthful.2.2⟩

end RememberedItems

namespace RememberedFilter

variable {filter : RememberedFilter}

theorem truthful_ofItems (conjunction : Conjunction) {items : List RememberedItem}
    (truthful : ∀ item ∈ items, item.Truthful hasher) :
    (ofItems conjunction items).Truthful hasher :=
  ⟨HashMemory.holds_empty _, RememberedItems.truthful_ofList truthful⟩

theorem truthful_negate (truthful : filter.Truthful hasher) : filter.negate.Truthful hasher :=
  ⟨HashMemory.holds_empty _, truthful.2⟩

theorem truthful_withItem {item : RememberedItem} (truthful : filter.Truthful hasher)
    (itemTruthful : item.Truthful hasher) : (filter.withItem item).Truthful hasher := by
  have last : (item.inFrontOf .nil).Truthful hasher :=
    RememberedItem.truthful_inFrontOf_iff.mpr ⟨itemTruthful, trivial⟩
  exact ⟨HashMemory.holds_empty _, RememberedItems.truthful_append truthful.2 last⟩

theorem truthful_forUpdate (truthful : filter.Truthful hasher) :
    filter.forUpdate.Truthful hasher :=
  ⟨HashMemory.holds_empty _, RememberedItems.truthful_forUpdate truthful.2⟩

theorem forget_forUpdate (filter : RememberedFilter) :
    filter.forUpdate.forget = filter.forget.forUpdate := by
  simp only [forUpdate, forget, Filter.forUpdate, RememberedItems.forget_forUpdate]

end RememberedFilter

end SqlCompiler
