import SqlCompiler.Proofs.Filter.Placeholders

/-!
# Groups without a comparator

A group that holds no comparator at any depth can be put anywhere into a
filter or taken out of it.  Neither its conjunction nor its negation shows, and
the namer passes over it, so the groups behind it keep their names.  A filter
that consists of such groups has no text, and any other one has some, even if
all its comparators are empty literals.
-/

namespace SqlCompiler

namespace FilterItems

/-- The second items are the first ones with empty groups put in, at all depths. -/
inductive Pads : FilterItems → FilterItems → Prop where
  | nil : Pads .nil .nil
  | leaf (comparator : Comparator) {rest others : FilterItems} (behind : Pads rest others) :
      Pads (.leaf comparator rest) (.leaf comparator others)
  | group (conjunction : Conjunction) (negated : Bool) {items inner rest others : FilterItems}
      (inside : Pads items inner) (behind : Pads rest others) :
      Pads (.group conjunction negated items rest) (.group conjunction negated inner others)
  | insert (conjunction : Conjunction) (negated : Bool) {inserted items others : FilterItems}
      (empty : inserted.isEmpty = true) (behind : Pads items others) :
      Pads items (.group conjunction negated inserted others)

/-- No group is empty, at any depth. -/
inductive NoEmptyGroup : FilterItems → Prop where
  | nil : NoEmptyGroup .nil
  | leaf (comparator : Comparator) {rest : FilterItems} (behind : NoEmptyGroup rest) :
      NoEmptyGroup (.leaf comparator rest)
  | group (conjunction : Conjunction) (negated : Bool) {items rest : FilterItems}
      (holds : items.isEmpty = false) (inside : NoEmptyGroup items)
      (behind : NoEmptyGroup rest) : NoEmptyGroup (.group conjunction negated items rest)

/-- The items without their empty groups, at all depths. -/
def withoutEmptyGroups : FilterItems → FilterItems
  | .nil => .nil
  | .leaf comparator rest => .leaf comparator rest.withoutEmptyGroups
  | .group conjunction negated items rest =>
      if items.isEmpty then rest.withoutEmptyGroups
      else .group conjunction negated items.withoutEmptyGroups rest.withoutEmptyGroups

namespace Pads

variable {items padded : FilterItems}

theorem comparators_eq (pads : Pads items padded) : padded.comparators = items.comparators := by
  induction pads with
  | nil => rfl
  | leaf _ _ ih => rw [comparators, comparators, ih]
  | group _ _ _ _ insideIH behindIH => rw [comparators, comparators, insideIH, behindIH]
  | insert _ _ empty _ ih =>
      rw [comparators, comparators_eq_nil_of_isEmpty empty, List.nil_append, ih]

theorem isEmpty_eq (pads : Pads items padded) : padded.isEmpty = items.isEmpty := by
  rw [isEmpty_iff_comparators, isEmpty_iff_comparators, pads.comparators_eq]

/-- The namer is left in the same state by items with empty groups and without. -/
theorem named_eq (pads : Pads items padded) (setting : Setting) (row : Nat) (namer : Namer) :
    padded.named setting row namer = items.named setting row namer := by
  induction pads generalizing namer with
  | nil => rfl
  | leaf comparator _ ih => simp only [named, ih]
  | group _ _ inside _ insideIH behindIH =>
      simp only [named, inside.isEmpty_eq, insideIH, behindIH]
  | insert _ _ empty _ ih => rw [named, if_pos empty, ih]

/-- Items without empty groups are what is left of all that they pad to. -/
theorem withoutEmptyGroups_eq (pads : Pads items padded) (none : items.NoEmptyGroup) :
    padded.withoutEmptyGroups = items := by
  induction pads with
  | nil => rfl
  | leaf comparator _ ih =>
      cases none with
      | leaf _ behind => rw [withoutEmptyGroups, ih behind]
  | group _ _ insidePads _ insideIH behindIH =>
      cases none with
      | group _ _ holds inside behind =>
          rw [withoutEmptyGroups, insidePads.isEmpty_eq, holds, insideIH inside, behindIH behind]
          rfl
  | insert _ _ empty _ ih => rw [withoutEmptyGroups, if_pos empty, ih none]

end Pads

theorem pads_withoutEmptyGroups (items : FilterItems) : Pads items.withoutEmptyGroups items := by
  induction items with
  | nil => exact .nil
  | leaf comparator rest ih => exact .leaf comparator ih
  | group conjunction negated inner rest innerIH restIH =>
      rw [withoutEmptyGroups]
      split
      next empty => exact .insert conjunction negated empty restIH
      next => exact .group conjunction negated innerIH restIH

theorem noEmptyGroup_withoutEmptyGroups (items : FilterItems) :
    items.withoutEmptyGroups.NoEmptyGroup := by
  induction items with
  | nil => exact .nil
  | leaf comparator rest ih => exact .leaf comparator ih
  | group conjunction negated inner rest innerIH restIH =>
      rw [withoutEmptyGroups]
      split
      next => exact restIH
      next nonempty =>
        have holds : inner.withoutEmptyGroups.isEmpty = false := by
          rw [← inner.pads_withoutEmptyGroups.isEmpty_eq]
          simpa using nonempty
        exact .group conjunction negated holds innerIH restIH

theorem named_of_isEmpty (setting : Setting) (row : Nat) {items : FilterItems}
    (empty : items.isEmpty = true) (namer : Namer) :
    items.named setting row namer = (.nil, namer) := by
  induction items with
  | nil => rfl
  | leaf comparator rest => simp [isEmpty] at empty
  | group conjunction negated inner rest _ restIH =>
      simp only [isEmpty, Bool.and_eq_true] at empty
      rw [named, if_pos empty.1, restIH empty.2]

end FilterItems

namespace Filter

/-- The second filter is the first one with empty groups put in below its root. -/
structure Pads (filter padded : Filter) : Prop where
  conjunction : padded.conjunction = filter.conjunction
  negated : padded.negated = filter.negated
  items : FilterItems.Pads filter.items padded.items

/-- The filter without the empty groups below its root. -/
def withoutEmptyGroups (filter : Filter) : Filter :=
  { filter with items := filter.items.withoutEmptyGroups }

/-- The filters have the same text and bind the same, and both are empty or neither. -/
structure WrittenAlike (setting : Setting) (row : Nat) (first second : Filter) : Prop where
  text : first.text setting row = second.text setting row
  parameters : first.parameters setting row = second.parameters setting row
  isEmpty : first.isEmpty = second.isEmpty

theorem pads_withoutEmptyGroups (filter : Filter) : filter.withoutEmptyGroups.Pads filter :=
  ⟨rfl, rfl, filter.items.pads_withoutEmptyGroups⟩

/-- There is one way to take empty groups out of a filter and have none left. -/
theorem eq_withoutEmptyGroups_iff {bare filter : Filter} :
    bare = filter.withoutEmptyGroups ↔ bare.Pads filter ∧ bare.items.NoEmptyGroup := by
  constructor
  · rintro rfl
    exact ⟨filter.pads_withoutEmptyGroups, filter.items.noEmptyGroup_withoutEmptyGroups⟩
  · rintro ⟨⟨conjunction, negated, items⟩, none⟩
    rw [withoutEmptyGroups, items.withoutEmptyGroups_eq none, conjunction, negated]

theorem Pads.writtenAlike {filter padded : Filter} (pads : filter.Pads padded)
    (setting : Setting) (row : Nat) : WrittenAlike setting row padded filter := by
  have named : padded.namedItems setting row = filter.namedItems setting row := by
    rw [namedItems, namedItems, pads.items.named_eq]
  constructor
  · rw [text_eq_namedItems, text_eq_namedItems, pads.conjunction, pads.negated, named]
  · rw [parameters_eq_namedItems, parameters_eq_namedItems, named]
  · exact pads.items.isEmpty_eq

theorem WrittenAlike.symm {setting : Setting} {row : Nat} {first second : Filter}
    (alike : WrittenAlike setting row first second) : WrittenAlike setting row second first :=
  ⟨alike.text.symm, alike.parameters.symm, alike.isEmpty.symm⟩

theorem isEmpty_eq_false_iff {filter : Filter} :
    filter.isEmpty = false ↔ filter.comparators ≠ [] := by
  rw [isEmpty, FilterItems.isEmpty_iff_comparators]
  exact List.isEmpty_eq_false_iff

theorem text_of_isEmpty {filter : Filter} (empty : filter.isEmpty = true) (setting : Setting)
    (row : Nat) : filter.text setting row = "" := by
  rw [text_eq_namedItems, namedItems, FilterItems.named_of_isEmpty setting row empty]
  rfl

theorem text_ne_empty {filter : Filter} (holds : filter.comparators ≠ [])
    (setting : Setting) (row : Nat) : filter.text setting row ≠ "" := by
  have conditions : (filter.namedItems setting row).texts setting ≠ [] :=
    FilterItems.texts_named_ne_nil setting row filter.items
      (isEmpty_eq_false_iff.mpr holds) {}
  rw [text_eq_namedItems, joinedText_of_ne_nil filter.conjunction filter.negated conditions]
  simp [parenthesized]

theorem text_eq_empty_iff (filter : Filter) (setting : Setting) (row : Nat) :
    filter.text setting row = "" ↔ filter.isEmpty = true := by
  constructor
  · intro noText
    by_contra holds
    exact text_ne_empty (isEmpty_eq_false_iff.mp (by simpa using holds)) setting row noText
  · intro empty
    exact text_of_isEmpty empty setting row

/--
Empty groups do not show: a filter is written like all filters that it pads to
and like the one filter without empty groups that pads to it.  The text is
empty exactly if the filter is.
-/
theorem emptyGroups_invisible (filter : Filter) (setting : Setting) (row : Nat) :
    (∀ padded, filter.Pads padded → WrittenAlike setting row padded filter) ∧
      WrittenAlike setting row filter.withoutEmptyGroups filter ∧
      (∀ bare : Filter,
        bare = filter.withoutEmptyGroups ↔ bare.Pads filter ∧ bare.items.NoEmptyGroup) ∧
      (filter.text setting row = "" ↔ filter.isEmpty = true) := by
  refine ⟨?_, ?_, fun bare => eq_withoutEmptyGroups_iff, filter.text_eq_empty_iff setting row⟩
  · intro padded pads
    exact pads.writtenAlike setting row
  · exact (filter.pads_withoutEmptyGroups.writtenAlike setting row).symm

/-- A filter with an empty literal and twice the same column, the first time in a negated group. -/
def repeatedColumn : Filter where
  conjunction := .or
  negated := true
  items :=
    .leaf (.literal "")
      (.group .and true
        (.leaf { field := { name := "Id" }, comparison := .equal,
                 value := .int 1, kind := .plain } .nil)
        (.leaf { field := { name := "Id" }, comparison := .equal,
                 value := .int 2, kind := .plain } .nil))

/-- The same filter with empty groups in front, inside its group and behind. -/
def repeatedColumnPadded : Filter where
  conjunction := .or
  negated := true
  items :=
    .group .and true (.group .or false .nil (.group .and true .nil .nil))
      (.leaf (.literal "")
        (.group .and true
          (.leaf { field := { name := "Id" }, comparison := .equal,
                   value := .int 1, kind := .plain } (.group .or true .nil .nil))
          (.leaf { field := { name := "Id" }, comparison := .equal,
                   value := .int 2, kind := .plain } (.group .and false .nil .nil))))

theorem emptyGroups_invisible_repeatedColumn :
    repeatedColumn.Pads repeatedColumnPadded ∧
      WrittenAlike .sqlServer 1 repeatedColumnPadded repeatedColumn := by
  have pads : repeatedColumn.Pads repeatedColumnPadded := by
    refine ⟨rfl, rfl, .insert .and true rfl (.leaf _ (.group .and true ?inside (.leaf _ ?behind)))⟩
    case inside => exact .leaf _ (.insert .or true rfl .nil)
    case behind => exact .insert .and false rfl .nil
  exact ⟨pads, (emptyGroups_invisible repeatedColumn .sqlServer 1).1 repeatedColumnPadded pads⟩

example : repeatedColumnPadded.text .sqlServer 1 =
    "NOT ( OR NOT ([Id] = @Id_1) OR [Id] = @Id_1_1)" := by
  decide +kernel

end Filter

end SqlCompiler
