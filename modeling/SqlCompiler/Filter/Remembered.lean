import SqlCompiler.Filter.Hash

/-!
# Filters that remember their hashes

Filters are compared and hashed again and again while they grow.  Every
comparator and every group of a filter has a memory for its hash, which is
filled when the hash is first asked for.  A step that builds a new comparator
or a new group starts with an empty memory for it; a copy keeps what was
remembered, and so does a comparator that only gets its low line.  A group that
remembers its hash does not ask its items, and comparing asks both sides for
their hashes before it looks at anything else.
-/

namespace SqlCompiler

/-- A place for one hash; zero means that none is remembered. -/
structure HashMemory where
  word : UInt64 := 0
  deriving DecidableEq, Repr

namespace HashMemory

/-- The remembered hash, or else a computed one, which is remembered from now on. -/
def consult (memory : HashMemory) (computed : UInt64) : UInt64 × HashMemory :=
  if memory.word = 0 then
    let own := ShapeHasher.nonzero computed
    (own, { word := own })
  else (memory.word, memory)

end HashMemory

/-- What a comparison finds, and both sides as it leaves them. -/
structure Compared (α : Type) where
  same : Bool
  first : α
  second : α
  deriving Repr

def Compared.map {α β : Type} (change : α → β) (compared : Compared α) : Compared β where
  same := compared.same
  first := change compared.first
  second := change compared.second

/-- A comparator with a memory for its hash. -/
structure RememberedComparator where
  comparator : Comparator
  memory : HashMemory := {}
  deriving Repr

/-- The items of a group with their memories. -/
inductive RememberedItems where
  | nil
  | leaf (front : RememberedComparator) (rest : RememberedItems)
  | group (conjunction : Conjunction) (negated : Bool) (memory : HashMemory)
      (items rest : RememberedItems)
  deriving Repr

/-- A filter with memories at all depths. -/
structure RememberedFilter where
  conjunction : Conjunction := .and
  negated : Bool := false
  memory : HashMemory := {}
  items : RememberedItems := .nil
  deriving Repr

/-- One item: a comparator or a group. -/
inductive RememberedItem where
  | leaf (front : RememberedComparator)
  | group (filter : RememberedFilter)
  deriving Repr

namespace RememberedComparator

def fresh (comparator : Comparator) : RememberedComparator where
  comparator := comparator

def withType (leaf : RememberedComparator) (type : SqlType) : RememberedComparator where
  comparator := leaf.comparator.withType type

def withUnderscore (leaf : RememberedComparator) : RememberedComparator :=
  { leaf with comparator := leaf.comparator.withUnderscore }

/-- The hash of a comparator, and the comparator that remembers it. -/
def hashed (leaf : RememberedComparator) (hasher : ShapeHasher := .standard) :
    UInt64 × RememberedComparator :=
  let own := leaf.memory.consult (hasher.shape leaf.comparator.shape)
  (own.1, { leaf with memory := own.2 })

def compare (first second : RememberedComparator) (hasher : ShapeHasher := .standard) :
    Compared RememberedComparator :=
  let asked := first.hashed hasher
  let other := second.hashed hasher
  { same := asked.1 == other.1 && asked.2.comparator == other.2.comparator
    first := asked.2
    second := other.2 }

end RememberedComparator

/-- An item in front of others. -/
def RememberedItem.inFrontOf (item : RememberedItem) (rest : RememberedItems) :
    RememberedItems :=
  match item with
  | .leaf front => .leaf front rest
  | .group filter => .group filter.conjunction filter.negated filter.memory filter.items rest

/--
The hash of a filter, and the filter that remembers it, where the items give
some hashes if they are asked for them.
-/
def RememberedFilter.consult (filter : RememberedFilter) (hasher : ShapeHasher)
    (inner : List UInt64 × RememberedItems) : UInt64 × RememberedFilter :=
  let own := filter.memory.consult (hasher.group filter.conjunction filter.negated inner.1)
  (own.1,
    { filter with
      memory := own.2
      items := if filter.memory.word = 0 then inner.2 else filter.items })

namespace RememberedItems

def append : RememberedItems → RememberedItems → RememberedItems
  | .nil, last => last
  | .leaf front rest, last => .leaf front (rest.append last)
  | .group conjunction negated memory items rest, last =>
      .group conjunction negated memory items (rest.append last)

instance : Append RememberedItems where
  append := append

def ofList (items : List RememberedItem) : RememberedItems :=
  items.foldr RememberedItem.inFrontOf .nil

def forget : RememberedItems → FilterItems
  | .nil => .nil
  | .leaf front rest => .leaf front.comparator rest.forget
  | .group conjunction negated _ items rest =>
      .group conjunction negated items.forget rest.forget

def fresh : FilterItems → RememberedItems
  | .nil => .nil
  | .leaf comparator rest => .leaf (.fresh comparator) (fresh rest)
  | .group conjunction negated items rest =>
      .group conjunction negated {} (fresh items) (fresh rest)

def length : RememberedItems → Nat
  | .nil => 0
  | .leaf _ rest => rest.length + 1
  | .group _ _ _ _ rest => rest.length + 1

/-- The items with a low line for every comparator; the groups are built anew. -/
def forUpdate : RememberedItems → RememberedItems
  | .nil => .nil
  | .leaf front rest => .leaf front.withUnderscore rest.forUpdate
  | .group conjunction negated _ items rest =>
      .group conjunction negated {} items.forUpdate rest.forUpdate

/-- The hashes with which items count in their group, and the items that remember theirs. -/
def hashes (hasher : ShapeHasher) : RememberedItems → List UInt64 × RememberedItems
  | .nil => ([], .nil)
  | .leaf front rest =>
      let own := front.hashed hasher
      let others := rest.hashes hasher
      (hasher.word own.1 :: others.1, .leaf own.2 others.2)
  | .group conjunction negated memory items rest =>
      let filter : RememberedFilter := { conjunction, negated, memory, items }
      let own := filter.consult hasher (items.hashes hasher)
      let others := rest.hashes hasher
      (own.1 :: others.1, (RememberedItem.group own.2).inFrontOf others.2)

/-- The number of comparators and groups at all depths. -/
def weight : RememberedItems → Nat
  | .nil => 0
  | .leaf _ rest => rest.weight + 1
  | .group _ _ _ items rest => items.weight + rest.weight + 1

end RememberedItems

/-- The hash of a filter, and the filter that remembers it. -/
def RememberedFilter.hashed (filter : RememberedFilter) (hasher : ShapeHasher := .standard) :
    UInt64 × RememberedFilter :=
  filter.consult hasher (filter.items.hashes hasher)

/--
What is found about two filters that were asked for their hashes, where `inner`
is what is found about their items if these are compared.
-/
def RememberedFilter.agree (first second : UInt64 × RememberedFilter)
    (inner : Compared RememberedItems) : Compared RememberedFilter :=
  if first.1 == second.1 && first.2.conjunction == second.2.conjunction &&
      first.2.negated == second.2.negated &&
      first.2.items.length == second.2.items.length then
    { same := inner.same
      first := { first.2 with items := inner.first }
      second := { second.2 with items := inner.second } }
  else { same := false, first := first.2, second := second.2 }

/-- Go on behind two items: the others are compared only if the items are the same. -/
def Compared.andRest (head : Compared RememberedItem) (rest rest' : RememberedItems)
    (others : Compared RememberedItems) : Compared RememberedItems :=
  if head.same then
    { same := others.same
      first := head.first.inFrontOf others.first
      second := head.second.inFrontOf others.second }
  else
    { same := false
      first := head.first.inFrontOf rest
      second := head.second.inFrontOf rest' }

namespace RememberedItems

/-- Asking for hashes fills memories and does nothing else to the items. -/
theorem weight_hashes (hasher : ShapeHasher) (items : RememberedItems) :
    (items.hashes hasher).2.weight = items.weight := by
  induction items with
  | nil => rfl
  | leaf front rest ih => simp [hashes, weight, ih]
  | group conjunction negated memory inner rest innerIH restIH =>
      simp only [hashes, RememberedFilter.consult, RememberedItem.inFrontOf, weight, restIH]
      split <;> simp [innerIH]

theorem weight_hashed (hasher : ShapeHasher) (filter : RememberedFilter) :
    (filter.hashed hasher).2.items.weight = filter.items.weight := by
  simp only [RememberedFilter.hashed, RememberedFilter.consult]
  split <;> simp [weight_hashes]

/-- Compare items one by one, up to the first two that differ. -/
def compare (hasher : ShapeHasher) : RememberedItems → RememberedItems → Compared RememberedItems
  | .nil, .nil => { same := true, first := .nil, second := .nil }
  | .leaf front rest, .leaf front' rest' =>
      ((front.compare front' hasher).map RememberedItem.leaf).andRest rest rest'
        (compare hasher rest rest')
  | .group conjunction negated memory items rest,
      .group conjunction' negated' memory' items' rest' =>
      let filter : RememberedFilter := { conjunction, negated, memory, items }
      let other : RememberedFilter :=
        { conjunction := conjunction', negated := negated', memory := memory', items := items' }
      let asked := filter.hashed hasher
      let otherAsked := other.hashed hasher
      ((RememberedFilter.agree asked otherAsked
        (compare hasher asked.2.items otherAsked.2.items)).map RememberedItem.group).andRest
          rest rest' (compare hasher rest rest')
  | first, second => { same := false, first, second }
termination_by first => first.weight
decreasing_by
  all_goals simp only [weight, weight_hashed]
  all_goals omega

/-- Ask for the hash of the item at a place, or at a place further inside it. -/
def askAt (hasher : ShapeHasher) : RememberedItems → Nat → List Nat → RememberedItems
  | .nil, _, _ => .nil
  | .leaf front rest, 0, _ => .leaf (front.hashed hasher).2 rest
  | .leaf front rest, place + 1, path => .leaf front (rest.askAt hasher place path)
  | .group conjunction negated memory items rest, 0, [] =>
      let filter : RememberedFilter := { conjunction, negated, memory, items }
      (RememberedItem.group (filter.hashed hasher).2).inFrontOf rest
  | .group conjunction negated memory items rest, 0, inside :: path =>
      .group conjunction negated memory (items.askAt hasher inside path) rest
  | .group conjunction negated memory items rest, place + 1, path =>
      .group conjunction negated memory items (rest.askAt hasher place path)

end RememberedItems

namespace RememberedFilter

def forget (filter : RememberedFilter) : Filter where
  conjunction := filter.conjunction
  negated := filter.negated
  items := filter.items.forget

def fresh (filter : Filter) : RememberedFilter where
  conjunction := filter.conjunction
  negated := filter.negated
  items := .fresh filter.items

def ofItems (conjunction : Conjunction) (items : List RememberedItem) : RememberedFilter where
  conjunction := conjunction
  items := .ofList items

def negate (filter : RememberedFilter) : RememberedFilter :=
  { filter with negated := !filter.negated, memory := {} }

def withItem (filter : RememberedFilter) (item : RememberedItem) : RememberedFilter :=
  { filter with items := filter.items ++ item.inFrontOf .nil, memory := {} }

def withComparator (filter : RememberedFilter) (comparator : Comparator) : RememberedFilter :=
  filter.withItem (.leaf (.fresh comparator))

def withGroup (filter group : RememberedFilter) : RememberedFilter :=
  filter.withItem (.group group)

def wrap (filter : RememberedFilter) (conjunction : Conjunction) : RememberedFilter :=
  ofItems conjunction [.group filter]

/-- The filter whose parameter names all start with a low line. -/
def forUpdate (filter : RememberedFilter) : RememberedFilter :=
  { filter with items := filter.items.forUpdate, memory := {} }

def compare (first second : RememberedFilter) (hasher : ShapeHasher := .standard) :
    Compared RememberedFilter :=
  let asked := first.hashed hasher
  let other := second.hashed hasher
  agree asked other (asked.2.items.compare hasher other.2.items)

def same (first second : RememberedFilter) : Bool :=
  (first.compare second).same

def askAt (filter : RememberedFilter) (hasher : ShapeHasher) : List Nat → RememberedFilter
  | [] => (filter.hashed hasher).2
  | place :: path => { filter with items := filter.items.askAt hasher place path }

end RememberedFilter

namespace RememberedItem

def forget (item : RememberedItem) : FilterItems :=
  (item.inFrontOf .nil).forget

def hashed (item : RememberedItem) (hasher : ShapeHasher := .standard) :
    UInt64 × RememberedItem :=
  match item with
  | .leaf front => ((front.hashed hasher).1, .leaf (front.hashed hasher).2)
  | .group filter => ((filter.hashed hasher).1, .group (filter.hashed hasher).2)

def compare (first second : RememberedItem) (hasher : ShapeHasher := .standard) :
    Compared RememberedItem :=
  match first, second with
  | .leaf front, .leaf other => (front.compare other hasher).map .leaf
  | .group filter, .group other => (filter.compare other hasher).map .group
  | first, second => { same := false, first, second }

def askAt (item : RememberedItem) (hasher : ShapeHasher) (path : List Nat) : RememberedItem :=
  match item with
  | .leaf front => .leaf (front.hashed hasher).2
  | .group filter => .group (filter.askAt hasher path)

end RememberedItem

end SqlCompiler
