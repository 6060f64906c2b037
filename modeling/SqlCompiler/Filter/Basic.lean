import SqlCompiler.Comparator.Text

/-!
# Filters

A filter is a boolean tree: comparators and groups, joined by one conjunction
at each level, where every group can be negated.  The items of a level form a
forest, one inductive type with an empty forest, a leaf in front and a group
in front, so that every function on filters is one structural recursion.

A group without a comparator at any depth is empty; it is invisible in the
text and in the parameters.  Equality sees the shape only: the conjunctions,
the negations and the shapes of the comparators in their order.
-/

namespace SqlCompiler

/-- How the items of a group are joined. -/
inductive Conjunction where
  | and
  | or
  deriving DecidableEq, Repr, Hashable

namespace Conjunction

def keyword : Conjunction → String
  | .and => "AND"
  | .or => "OR"

def name : Conjunction → String
  | .and => "And"
  | .or => "Or"

def named? (text : String) : Option Conjunction :=
  [and, or].find? (·.name == text)

def spellings : List (List String × Conjunction) :=
  [(["and", "&&"], .and), (["or", "||"], .or)]

def parse (text : String) : Except CompileError Conjunction :=
  match Text.lookup spellings (Text.plainKeyword text) with
  | some conjunction => .ok conjunction
  | none => .error (.unknownConjunction (Text.plainKeyword text))

end Conjunction

/-- The items of a group, in order. -/
inductive FilterItems where
  | nil
  | leaf (comparator : Comparator) (rest : FilterItems)
  | group (conjunction : Conjunction) (negated : Bool) (items rest : FilterItems)
  deriving Repr

/-- A boolean tree of comparators. -/
structure Filter where
  conjunction : Conjunction := .and
  negated : Bool := false
  items : FilterItems := .nil
  deriving Repr

namespace FilterItems

def append : FilterItems → FilterItems → FilterItems
  | .nil, last => last
  | .leaf comparator rest, last => .leaf comparator (rest.append last)
  | .group conjunction negated items rest, last =>
      .group conjunction negated items (rest.append last)

instance : Append FilterItems where
  append := append

def ofComparators : List Comparator → FilterItems
  | [] => .nil
  | comparator :: rest => .leaf comparator (ofComparators rest)

def length : FilterItems → Nat
  | .nil => 0
  | .leaf _ rest => rest.length + 1
  | .group _ _ _ rest => rest.length + 1

def isEmpty : FilterItems → Bool
  | .nil => true
  | .leaf _ _ => false
  | .group _ _ items rest => items.isEmpty && rest.isEmpty

def comparators : FilterItems → List Comparator
  | .nil => []
  | .leaf comparator rest => comparator :: rest.comparators
  | .group _ _ items rest => items.comparators ++ rest.comparators

def mapComparators (change : Comparator → Comparator) : FilterItems → FilterItems
  | .nil => .nil
  | .leaf comparator rest => .leaf (change comparator) (rest.mapComparators change)
  | .group conjunction negated items rest =>
      .group conjunction negated (items.mapComparators change) (rest.mapComparators change)

def sameShape : FilterItems → FilterItems → Bool
  | .nil, .nil => true
  | .leaf first rest, .leaf second others => first == second && rest.sameShape others
  | .group conjunction negated items rest, .group conjunction' negated' items' rest' =>
      conjunction == conjunction' && negated == negated' && items.sameShape items' &&
        rest.sameShape rest'
  | _, _ => false

@[simp]
theorem nil_append (items : FilterItems) : nil ++ items = items :=
  rfl

@[simp]
theorem leaf_append (comparator : Comparator) (rest items : FilterItems) :
    leaf comparator rest ++ items = leaf comparator (rest ++ items) :=
  rfl

@[simp]
theorem group_append (conjunction : Conjunction) (negated : Bool)
    (inner rest items : FilterItems) :
    group conjunction negated inner rest ++ items =
      group conjunction negated inner (rest ++ items) :=
  rfl

@[simp]
theorem append_nil (items : FilterItems) : items ++ nil = items := by
  induction items with
  | nil => rfl
  | leaf comparator rest ih => simp [ih]
  | group conjunction negated inner rest _ ih => simp [ih]

theorem append_assoc (first second third : FilterItems) :
    first ++ second ++ third = first ++ (second ++ third) := by
  induction first with
  | nil => rfl
  | leaf comparator rest ih => simp [ih]
  | group conjunction negated inner rest _ ih => simp [ih]

@[simp]
theorem comparators_append (first second : FilterItems) :
    (first ++ second).comparators = first.comparators ++ second.comparators := by
  induction first with
  | nil => rfl
  | leaf comparator rest ih => simp [comparators, ih]
  | group conjunction negated inner rest _ ih => simp [comparators, ih]

@[simp]
theorem comparators_ofComparators (list : List Comparator) :
    (ofComparators list).comparators = list := by
  induction list with
  | nil => rfl
  | cons comparator rest ih => simp [ofComparators, comparators, ih]

/-- The items are empty exactly when they hold no comparator. -/
theorem isEmpty_iff_comparators (items : FilterItems) :
    items.isEmpty = items.comparators.isEmpty := by
  induction items with
  | nil => rfl
  | leaf comparator rest _ => rfl
  | group conjunction negated inner rest innerIH restIH =>
      simp only [isEmpty, comparators, innerIH, restIH]
      cases inner.comparators <;> rfl

end FilterItems

namespace Filter

def all (comparators : List Comparator) : Filter where
  items := .ofComparators comparators

def any (comparators : List Comparator) : Filter where
  conjunction := .or
  items := .ofComparators comparators

def negate (filter : Filter) : Filter :=
  { filter with negated := !filter.negated }

def asItem (filter : Filter) : FilterItems :=
  .group filter.conjunction filter.negated filter.items .nil

def withComparator (filter : Filter) (comparator : Comparator) : Filter :=
  { filter with items := filter.items ++ .leaf comparator .nil }

def withGroup (filter group : Filter) : Filter :=
  { filter with items := filter.items ++ group.asItem }

def isEmpty (filter : Filter) : Bool :=
  filter.items.isEmpty

def comparators (filter : Filter) : List Comparator :=
  filter.items.comparators

/-- The filter whose parameter names all start with a low line. -/
def forUpdate (filter : Filter) : Filter :=
  { filter with items := filter.items.mapComparators Comparator.withUnderscore }

instance : BEq Filter where
  beq first second :=
    first.conjunction == second.conjunction && first.negated == second.negated &&
      first.items.sameShape second.items

@[simp]
theorem negate_negate (filter : Filter) : filter.negate.negate = filter := by
  simp [negate]

end Filter

end SqlCompiler
