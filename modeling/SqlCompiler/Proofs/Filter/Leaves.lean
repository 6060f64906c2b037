import SqlCompiler.Proofs.Filter.Naming
import SqlCompiler.Proofs.Filter.Walks

/-!
# The leaves of a filter and their stems

Naming walks over a tree, but nesting and empty groups leave no trace in it:
the stems of the leaves are what a walk over the list of comparators hands
out.  On that list a stem is new every time, so the leaves that are named have
distinct stems, and the parameters of a filter are those of its leaves in
their order.
-/

namespace SqlCompiler

/-- A literal is written without a stem. -/
theorem Comparator.text_of_isLiteral {comparator : Comparator}
    (literal : comparator.isLiteral = true) (first second : Setting) (stem other : String) :
    comparator.text first stem = comparator.text second other := by
  cases kind : comparator.kind with
  | literal text => simp [Comparator.text, kind]
  | _ => simp [isLiteral, kind] at literal

namespace NamedItems

/-- The comparators at all depths with their stems, from left to right. -/
def leaves : NamedItems → List (Comparator × String)
  | .nil => []
  | .leaf comparator stem rest => (comparator, stem) :: rest.leaves
  | .group _ _ items rest => items.leaves ++ rest.leaves

theorem parameters_eq_flatMap_leaves (setting : Setting) (items : NamedItems) :
    items.parameters setting =
      items.leaves.flatMap (fun leaf => leaf.1.parameters setting leaf.2) := by
  induction items with
  | nil => rfl
  | leaf comparator stem rest ih => simp [parameters, leaves, ih]
  | group conjunction negated inner rest innerIH restIH =>
      simp [parameters, leaves, innerIH, restIH]

end NamedItems

namespace Namer

/-- Hand out stems to comparators from left to right, for the parameters of one row. -/
def nameAll (setting : Setting) (row : Nat) :
    List Comparator → Namer → List (Comparator × String) × Namer
  | [], namer => ([], namer)
  | comparator :: rest, namer =>
      if comparator.isLiteral then
        let (others, last) := nameAll setting row rest namer
        ((comparator, "") :: others, last)
      else
        let (stem, namer) := namer.next (comparator.stem setting)
        let (others, last) := nameAll setting row rest namer
        ((comparator, withRow stem row) :: others, last)

theorem map_fst_nameAll (setting : Setting) (row : Nat) (comparators : List Comparator)
    (namer : Namer) : (nameAll setting row comparators namer).1.map Prod.fst = comparators := by
  induction comparators generalizing namer with
  | nil => rfl
  | cons comparator rest ih =>
      unfold nameAll
      split <;> simp [ih]

theorem nameAll_append (setting : Setting) (row : Nat) (first second : List Comparator)
    (namer : Namer) :
    nameAll setting row (first ++ second) namer =
      ((nameAll setting row first namer).1 ++
          (nameAll setting row second (nameAll setting row first namer).2).1,
        (nameAll setting row second (nameAll setting row first namer).2).2) := by
  induction first generalizing namer with
  | nil => rfl
  | cons comparator rest ih =>
      simp only [List.cons_append, nameAll]
      split <;> simp [ih]

/-- The stems handed out are those of names that were free, with the row number added. -/
theorem exists_free_of_mem_nameAll (setting : Setting) (row : Nat)
    (comparators : List Comparator) (namer : Namer) {leaf : Comparator × String}
    (member : leaf ∈ (nameAll setting row comparators namer).1)
    (named : leaf.1.isLiteral = false) :
    ∃ name, name ∉ namer.taken ∧ leaf.2 = withRow name row := by
  induction comparators generalizing namer with
  | nil => simp [nameAll] at member
  | cons comparator rest ih =>
      unfold nameAll at member
      split at member
      next literal =>
        obtain rfl | later := List.mem_cons.mp member
        · simp [literal] at named
        · exact ih namer later
      next =>
        obtain rfl | later := List.mem_cons.mp member
        · exact ⟨_, namer.next_fst_not_mem _, rfl⟩
        · obtain ⟨name, free, stem⟩ := ih _ later
          rw [taken_next] at free
          exact ⟨name, fun taken => free (List.mem_cons_of_mem _ taken), stem⟩

theorem pairwise_stem_ne_nameAll (setting : Setting) (row : Nat)
    (comparators : List Comparator) (namer : Namer) :
    (nameAll setting row comparators namer).1.Pairwise (fun first second =>
      first.1.isLiteral = false → second.1.isLiteral = false → first.2 ≠ second.2) := by
  induction comparators generalizing namer with
  | nil => simp [nameAll]
  | cons comparator rest ih =>
      unfold nameAll
      split
      next literal =>
        refine List.pairwise_cons.mpr ⟨?_, ih namer⟩
        intro leaf _ named
        simp [literal] at named
      next =>
        refine List.pairwise_cons.mpr ⟨?_, ih _⟩
        intro leaf member _ named equal
        obtain ⟨name, free, stem⟩ := exists_free_of_mem_nameAll setting row rest _ member named
        have same := withRow_injective row (equal.trans stem)
        rw [taken_next, ← same] at free
        exact free List.mem_cons_self

end Namer

namespace FilterItems

theorem comparators_eq_nil_of_isEmpty {items : FilterItems} (empty : items.isEmpty = true) :
    items.comparators = [] := by
  simpa [isEmpty_iff_comparators] using empty

/-- Naming a tree is naming the list of its comparators. -/
theorem named_eq_nameAll (setting : Setting) (row : Nat) (items : FilterItems) (namer : Namer) :
    (items.named setting row namer).1.leaves =
        (Namer.nameAll setting row items.comparators namer).1 ∧
      (items.named setting row namer).2 =
        (Namer.nameAll setting row items.comparators namer).2 := by
  induction items generalizing namer with
  | nil => exact ⟨rfl, rfl⟩
  | leaf comparator rest ih =>
      unfold named
      simp only [comparators, Namer.nameAll]
      split <;> simp [NamedItems.leaves, ih]
  | group conjunction negated inner rest innerIH restIH =>
      unfold named
      simp only [comparators, Namer.nameAll_append]
      split
      next empty =>
        have noComparator := comparators_eq_nil_of_isEmpty empty
        simp [noComparator, Namer.nameAll, restIH]
      next => simp [NamedItems.leaves, innerIH, restIH]

end FilterItems

namespace Filter

def leaves (filter : Filter) (setting : Setting) (row : Nat) : List (Comparator × String) :=
  (filter.namedItems setting row).leaves

theorem leaves_eq_nameAll (filter : Filter) (setting : Setting) (row : Nat) :
    filter.leaves setting row = (Namer.nameAll setting row filter.comparators {}).1 :=
  (FilterItems.named_eq_nameAll setting row filter.items {}).1

theorem map_fst_leaves (filter : Filter) (setting : Setting) (row : Nat) :
    (filter.leaves setting row).map Prod.fst = filter.comparators := by
  rw [leaves_eq_nameAll, Namer.map_fst_nameAll]

theorem leaves_of_isEmpty {filter : Filter} (empty : filter.isEmpty = true)
    (setting : Setting) (row : Nat) : filter.leaves setting row = [] := by
  have noComparator : filter.comparators = [] :=
    FilterItems.comparators_eq_nil_of_isEmpty empty
  have mapped := filter.map_fst_leaves setting row
  rw [noComparator] at mapped
  exact List.map_eq_nil_iff.mp mapped

theorem parameters_eq_flatMap_leaves (filter : Filter) (setting : Setting) (row : Nat) :
    filter.parameters setting row =
      (filter.leaves setting row).flatMap (fun leaf => leaf.1.parameters setting leaf.2) := by
  rw [parameters_eq_namedItems, NamedItems.parameters_eq_flatMap_leaves, leaves]

/-- The leaves of a filter that are named have distinct stems. -/
theorem pairwise_stem_ne_leaves (filter : Filter) (setting : Setting) (row : Nat) :
    (filter.leaves setting row).Pairwise (fun first second =>
      first.1.isLiteral = false → second.1.isLiteral = false → first.2 ≠ second.2) := by
  rw [leaves_eq_nameAll]
  exact Namer.pairwise_stem_ne_nameAll setting row filter.comparators {}

end Filter

end SqlCompiler
