import SqlCompiler.Proofs.Filter.Tokens

/-!
# Filters that grow at their end

A caller can extend a filter after it has bound the values of the leaves there
are.  The name of a leaf depends on the leaves further left only, and groups
leave no trace in the naming, so whatever is put behind the items of a filter,
its own leaves keep their names, and the texts of its items stay what they are.
This holds for a filter at the root and for one inside other groups, where the
leaves in front of it keep their names as well.
-/

namespace SqlCompiler

namespace Namer

/-- What is named first does not depend on what is named later. -/
theorem nameAll_prefix (setting : Setting) (row : Nat) {first second : List Comparator}
    (front : first <+: second) (namer : Namer) :
    (nameAll setting row first namer).1 <+: (nameAll setting row second namer).1 := by
  obtain ⟨later, rfl⟩ := front
  rw [nameAll_append]
  exact List.prefix_append _ _

end Namer

/-- Items are named and written one after the other. -/
theorem FilterItems.texts_append (setting : Setting) (row : Nat)
    (first second : FilterItems) (namer : Namer) :
    ((first ++ second).texts setting row namer).1 =
      (first.texts setting row namer).1 ++
        (second.texts setting row (first.texts setting row namer).2).1 := by
  induction first generalizing namer with
  | nil => rfl
  | leaf comparator rest ih =>
      simp only [leaf_append, texts]
      split <;> exact congrArg _ (ih _)
  | group conjunction negated inner rest _ ih =>
      simp only [group_append, texts]
      split
      next => exact ih namer
      next => exact congrArg _ (ih _)

namespace Filter

variable (setting : Setting) (row : Nat)

/-- The texts of the items that are written; joined, they are the text of the filter. -/
def conditions (filter : Filter) : List String :=
  (filter.items.texts setting row {}).1

/-- The filter with more items behind its own. -/
def followedBy (filter : Filter) (items : FilterItems) : Filter :=
  { filter with items := filter.items ++ items }

theorem comparators_followedBy (filter : Filter) (items : FilterItems) :
    (filter.followedBy items).comparators = filter.comparators ++ items.comparators :=
  FilterItems.comparators_append filter.items items

theorem leaves_prefix {first second : Filter} (front : first.comparators <+: second.comparators) :
    first.leaves setting row <+: second.leaves setting row := by
  rw [leaves_eq_nameAll, leaves_eq_nameAll]
  exact Namer.nameAll_prefix setting row front {}

/--
The leaves of the first filter come first in the second one and keep their
names: they bind the same parameters and have the same texts, and the text of
the second filter joins the conditions of the first one with others.
-/
structure KeptIn (filter larger : Filter) : Prop where
  parameters : filter.parameters setting row <+: larger.parameters setting row
  leafTexts : filter.leafTexts setting row <+: larger.leafTexts setting row
  text : ∃ added, larger.text setting row =
    joinedText filter.conjunction filter.negated (filter.conditions setting row ++ added)

theorem keptIn_followedBy (filter : Filter) (items : FilterItems) :
    KeptIn setting row filter (filter.followedBy items) := by
  have leaves : filter.leaves setting row <+: (filter.followedBy items).leaves setting row := by
    apply leaves_prefix
    rw [comparators_followedBy]
    exact List.prefix_append _ _
  refine ⟨?_, leaves.map _, ?_⟩
  · obtain ⟨later, same⟩ := leaves
    rw [parameters_eq_flatMap_leaves, parameters_eq_flatMap_leaves, ← same, List.flatMap_append]
    exact List.prefix_append _ _
  · have conditions := FilterItems.texts_append setting row filter.items items {}
    exact ⟨_, congrArg (joinedText filter.conjunction filter.negated) conditions⟩

end Filter

/-- A group around a filter, with the items in front of it and those behind it. -/
structure Enclosure where
  conjunction : Conjunction
  negated : Bool
  before : FilterItems
  after : FilterItems

namespace Enclosure

def around (enclosure : Enclosure) (filter : Filter) : Filter where
  conjunction := enclosure.conjunction
  negated := enclosure.negated
  items := enclosure.before ++
    .group filter.conjunction filter.negated filter.items enclosure.after

/-- The leaves in front of what is enclosed, where the first enclosure is the innermost one. -/
def leavesBefore : List Enclosure → List Comparator
  | [] => []
  | enclosure :: outer => leavesBefore outer ++ enclosure.before.comparators

def leavesAfter : List Enclosure → List Comparator
  | [] => []
  | enclosure :: outer => enclosure.after.comparators ++ leavesAfter outer

end Enclosure

namespace Filter

open Enclosure

/-- The filter inside of groups around it, the innermost one first. -/
def within (filter : Filter) (enclosures : List Enclosure) : Filter :=
  enclosures.foldl (fun inner enclosure => enclosure.around inner) filter

theorem comparators_around (enclosure : Enclosure) (filter : Filter) :
    (enclosure.around filter).comparators =
      enclosure.before.comparators ++ filter.comparators ++ enclosure.after.comparators := by
  simp [around, comparators, FilterItems.comparators]

theorem comparators_within (filter : Filter) (enclosures : List Enclosure) :
    (filter.within enclosures).comparators =
      leavesBefore enclosures ++ filter.comparators ++ leavesAfter enclosures := by
  induction enclosures generalizing filter with
  | nil => simp [within, leavesBefore, leavesAfter]
  | cons enclosure outer ih =>
      have step : filter.within (enclosure :: outer) =
          (enclosure.around filter).within outer := rfl
      rw [step, ih, comparators_around]
      simp [leavesBefore, leavesAfter]

variable (setting : Setting) (row : Nat)

/-- Some leaves come first in both filters and have the same stems there. -/
def ShareLeaves (front : List Comparator) (first second : Filter) : Prop :=
  ∃ named : List (Comparator × String), named.map Prod.fst = front ∧
    named <+: first.leaves setting row ∧ named <+: second.leaves setting row

theorem shareLeaves_within (filter : Filter) (items : FilterItems)
    (enclosures : List Enclosure) :
    ShareLeaves setting row (leavesBefore enclosures ++ filter.comparators)
      (filter.within enclosures) ((filter.followedBy items).within enclosures) := by
  refine ⟨_, Namer.map_fst_nameAll setting row _ {}, ?_, ?_⟩
  · rw [leaves_eq_nameAll, comparators_within]
    exact Namer.nameAll_prefix setting row (List.prefix_append _ _) {}
  · rw [leaves_eq_nameAll, comparators_within, comparators_followedBy]
    apply Namer.nameAll_prefix
    simp

/--
Appending a leaf or a group to a filter renames nothing: what the filter binds
and the texts of its leaves come first, as they were, in the larger filter.
Inside of other groups the leaves of the filter and those in front of it keep
their stems.
-/
theorem appending_renames_nothing (filter : Filter) :
    (∀ comparator, KeptIn setting row filter (filter.withComparator comparator)) ∧
      (∀ group, KeptIn setting row filter (filter.withGroup group)) ∧
      ∀ enclosures : List Enclosure,
        (∀ comparator, ShareLeaves setting row (leavesBefore enclosures ++ filter.comparators)
          (filter.within enclosures) ((filter.withComparator comparator).within enclosures)) ∧
        ∀ group, ShareLeaves setting row (leavesBefore enclosures ++ filter.comparators)
          (filter.within enclosures) ((filter.withGroup group).within enclosures) := by
  refine ⟨?_, ?_, fun enclosures => ⟨?_, ?_⟩⟩
  · intro comparator
    exact keptIn_followedBy setting row filter (.leaf comparator .nil)
  · intro group
    exact keptIn_followedBy setting row filter group.asItem
  · intro comparator
    exact shareLeaves_within setting row filter (.leaf comparator .nil) enclosures
  · intro group
    exact shareLeaves_within setting row filter group.asItem enclosures

/-- The third leaf with one stem gets a name of its own. -/
example :
    let id (value : Value) : Comparator :=
      { field := { name := "Id" }, comparison := .equal, value, kind := .plain }
    ((any [id (.int 1), id (.int 2)]).negate.withComparator (id (.int 3))).text .sqlServer 1 =
      "NOT ([Id] = @Id_1 OR [Id] = @Id_1_1 OR [Id] = @Id_2_1)" := by
  decide +kernel

end Filter

end SqlCompiler
