import SqlCompiler.Proofs.Filter.Leaves

/-!
# Stems behind a low line

The filter of an update has a low line in front of the stem of every leaf.
The namer compares stems and adds numbers behind them, so it hands out what it
would have handed out without the low lines, with a low line in front.
-/

namespace SqlCompiler

def underscore (name : String) : String :=
  "_" ++ name

theorem underscore_injective : Function.Injective underscore := by
  intro first second equal
  simpa [underscore] using equal

theorem withRow_underscore (name : String) (row : Nat) :
    withRow (underscore name) row = underscore (withRow name row) := by
  unfold withRow
  split
  · rfl
  · simp [underscore, String.append_assoc]

namespace Namer

def underscore (namer : Namer) : Namer where
  taken := namer.taken.map SqlCompiler.underscore
  numbers := namer.numbers.map (fun used => (SqlCompiler.underscore used.1, used.2))

theorem numbered_underscore (stem : String) (number : Nat) :
    numbered (SqlCompiler.underscore stem) number =
      SqlCompiler.underscore (numbered stem number) := by
  simp [numbered, SqlCompiler.underscore, String.append_assoc]

theorem contains_map_underscore (taken : List String) (name : String) :
    (taken.map SqlCompiler.underscore).contains (SqlCompiler.underscore name) =
      taken.contains name := by
  rw [Bool.eq_iff_iff, List.contains_iff_mem, List.contains_iff_mem,
    List.mem_map_of_injective underscore_injective]

theorem lastNumber_underscore (namer : Namer) (stem : String) :
    namer.underscore.lastNumber (SqlCompiler.underscore stem) = namer.lastNumber stem := by
  have same (used : String × Nat) :
      (SqlCompiler.underscore used.1 == SqlCompiler.underscore stem) = (used.1 == stem) := by
    rw [Bool.eq_iff_iff, beq_iff_eq, beq_iff_eq, underscore_injective.eq_iff]
  simp only [lastNumber, underscore, List.find?_map, Function.comp_def, same, Option.map_map]

theorem freeNumber_underscore (taken : List String) (stem : String) (number trials : Nat) :
    freeNumber (taken.map SqlCompiler.underscore) (SqlCompiler.underscore stem) number trials =
      freeNumber taken stem number trials := by
  induction trials generalizing number with
  | zero => rfl
  | succ trials ih =>
      simp only [freeNumber, numbered_underscore, contains_map_underscore, ih]

theorem next_underscore (namer : Namer) (stem : String) :
    namer.underscore.next (SqlCompiler.underscore stem) =
      (SqlCompiler.underscore (namer.next stem).1, (namer.next stem).2.underscore) := by
  have last := namer.lastNumber_underscore stem
  unfold next
  rw [last]
  simp only [underscore, contains_map_underscore, List.length_map, freeNumber_underscore,
    numbered_underscore]
  split <;> rfl

end Namer

/-- A named leaf with a low line in front of its stem; a literal has no stem. -/
def underscoreLeaf (leaf : Comparator × String) : Comparator × String :=
  (leaf.1.withUnderscore, if leaf.1.isLiteral then leaf.2 else underscore leaf.2)

theorem Comparator.stem_withUnderscore {comparator : Comparator}
    (plain : comparator.underscored = false) (setting : Setting) :
    comparator.withUnderscore.stem setting = underscore (comparator.stem setting) := by
  simp [stem, withUnderscore, plain, underscore]

namespace NamedItems

/-- The items with a low line in front of the stems, where a literal has none. -/
def underscore : NamedItems → NamedItems
  | .nil => .nil
  | .leaf comparator stem rest =>
      .leaf comparator.withUnderscore
        (if comparator.isLiteral then stem else SqlCompiler.underscore stem) rest.underscore
  | .group conjunction negated items rest =>
      .group conjunction negated items.underscore rest.underscore

theorem leaves_underscore (items : NamedItems) :
    items.underscore.leaves = items.leaves.map underscoreLeaf := by
  induction items with
  | nil => rfl
  | leaf comparator stem rest ih => simp [underscore, leaves, underscoreLeaf, ih]
  | group conjunction negated inner rest innerIH restIH =>
      simp [underscore, leaves, innerIH, restIH]

end NamedItems

namespace FilterItems

theorem comparators_mapComparators (change : Comparator → Comparator) (items : FilterItems) :
    (items.mapComparators change).comparators = items.comparators.map change := by
  induction items with
  | nil => rfl
  | leaf comparator rest ih => simp [mapComparators, comparators, ih]
  | group conjunction negated inner rest innerIH restIH =>
      simp [mapComparators, comparators, innerIH, restIH]

theorem mapComparators_mapComparators (first second : Comparator → Comparator)
    (items : FilterItems) :
    (items.mapComparators first).mapComparators second =
      items.mapComparators (fun comparator => second (first comparator)) := by
  induction items with
  | nil => rfl
  | leaf comparator rest ih => simp only [mapComparators, ih]
  | group conjunction negated inner rest innerIH restIH =>
      simp only [mapComparators, innerIH, restIH]

theorem mapComparators_eq_self {change : Comparator → Comparator} {items : FilterItems}
    (keeps : ∀ comparator ∈ items.comparators, change comparator = comparator) :
    items.mapComparators change = items := by
  induction items with
  | nil => rfl
  | leaf comparator rest ih =>
      rw [mapComparators, keeps comparator List.mem_cons_self,
        ih fun other member => keeps other (List.mem_cons_of_mem _ member)]
  | group conjunction negated inner rest innerIH restIH =>
      rw [mapComparators, innerIH fun other member => keeps other (List.mem_append_left _ member),
        restIH fun other member => keeps other (List.mem_append_right _ member)]

theorem isEmpty_mapComparators (change : Comparator → Comparator) (items : FilterItems) :
    (items.mapComparators change).isEmpty = items.isEmpty := by
  rw [isEmpty_iff_comparators, isEmpty_iff_comparators, comparators_mapComparators,
    List.isEmpty_map]

/--
Items with low lines are named in step with plain ones.

The induction is on the items; what it carries is that the one namer has taken
the names of the other, each behind a low line.
-/
theorem named_withUnderscore (setting : Setting) (row : Nat) {items : FilterItems}
    (plain : ∀ comparator ∈ items.comparators, comparator.underscored = false) (namer : Namer) :
    (items.mapComparators Comparator.withUnderscore).named setting row namer.underscore =
      ((items.named setting row namer).1.underscore,
        (items.named setting row namer).2.underscore) := by
  induction items generalizing namer with
  | nil => rfl
  | leaf comparator rest ih =>
      have restIH := ih fun other member => plain other (List.mem_cons_of_mem _ member)
      have stem := Comparator.stem_withUnderscore (plain comparator List.mem_cons_self) setting
      have same : comparator.withUnderscore.isLiteral = comparator.isLiteral := rfl
      rw [mapComparators, named, named, same]
      split
      next literal => simp [restIH, NamedItems.underscore, literal]
      next named =>
        simp [restIH, NamedItems.underscore, named, stem, Namer.next_underscore,
          withRow_underscore]
  | group conjunction negated inner rest innerIH restIH =>
      have innerIH := innerIH fun other member => plain other (List.mem_append_left _ member)
      have restIH := restIH fun other member => plain other (List.mem_append_right _ member)
      rw [mapComparators, named, named, isEmpty_mapComparators]
      split
      next => exact restIH namer
      next => simp [innerIH, restIH, NamedItems.underscore]

end FilterItems

namespace Filter

/-- The filter without low lines in front of its stems. -/
def withoutUnderscores (filter : Filter) : Filter :=
  { filter with
    items := filter.items.mapComparators fun comparator =>
      { comparator with underscored := false } }

theorem withoutUnderscores_eq_self {filter : Filter}
    (plain : ∀ comparator ∈ filter.comparators, comparator.underscored = false) :
    filter.withoutUnderscores = filter := by
  have items : filter.items.mapComparators (fun comparator =>
      { comparator with underscored := false }) = filter.items := by
    apply FilterItems.mapComparators_eq_self
    intro comparator member
    rw [← plain comparator member]
  rw [withoutUnderscores, items]

/-- The filter of an update is named like the plain filter, behind low lines. -/
theorem namedItems_forUpdate (filter : Filter) (setting : Setting) (row : Nat) :
    filter.forUpdate.namedItems setting row =
      (filter.withoutUnderscores.namedItems setting row).underscore := by
  have items : filter.forUpdate.items =
      filter.withoutUnderscores.items.mapComparators Comparator.withUnderscore := by
    rw [withoutUnderscores, FilterItems.mapComparators_mapComparators]
    rfl
  have plain : ∀ comparator ∈ filter.withoutUnderscores.items.comparators,
      comparator.underscored = false := by
    intro comparator member
    rw [withoutUnderscores, FilterItems.comparators_mapComparators] at member
    obtain ⟨original, -, rfl⟩ := List.mem_map.mp member
    rfl
  rw [namedItems, items]
  exact congrArg Prod.fst (FilterItems.named_withUnderscore setting row plain {})

/-- The leaves of the filter of an update have the stems of the plain filter, behind a low line. -/
theorem leaves_forUpdate (filter : Filter) (setting : Setting) (row : Nat) :
    filter.forUpdate.leaves setting row =
      (filter.withoutUnderscores.leaves setting row).map underscoreLeaf := by
  rw [leaves, namedItems_forUpdate, NamedItems.leaves_underscore, leaves]

end Filter

end SqlCompiler
