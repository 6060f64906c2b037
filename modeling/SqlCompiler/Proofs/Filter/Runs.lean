import SqlCompiler.Proofs.Filter.Remembered

/-!
# Runs of building and observing

A run works with a growing list of comparators and filters.  A step builds a
new one from those that are there, or it observes: it asks one of them, or one
at some depth inside it, for its hash, or it compares two.  What a building
step consumes stays in the list, as if it had been copied before.

After every run all memories are true, so that what is found by a comparison is
a matter of shapes alone, and the shapes do not depend on what was observed.
-/

namespace SqlCompiler

/-- The item of a group at a place. -/
def RememberedItems.part : RememberedItems → Nat → Option RememberedItem
  | .nil, _ => none
  | .leaf front _, 0 => some (.leaf front)
  | .leaf _ rest, place + 1 => rest.part place
  | .group conjunction negated memory items _, 0 =>
      some (.group { conjunction, negated, memory, items })
  | .group _ _ _ _ rest, place + 1 => rest.part place

namespace RememberedItem

def comparator? : RememberedItem → Option RememberedComparator
  | .leaf front => some front
  | .group _ => none

def filter? : RememberedItem → Option RememberedFilter
  | .leaf _ => none
  | .group filter => some filter

end RememberedItem

/-- A step that builds an item from the items at some places. -/
inductive Construction where
  | fresh (comparator : Comparator)
  | wrap (conjunction : Conjunction) (places : List Nat)
  | copy (place : Nat)
  | part (place inside : Nat)
  | withType (place : Nat) (type : SqlType)
  | withUnderscore (place : Nat)
  | negate (place : Nat)
  | withItem (place item : Nat)
  | forUpdate (place : Nat)
  deriving Repr

inductive Observation where
  | ask (place : Nat) (path : List Nat)
  | compare (place other : Nat)
  deriving Repr

inductive RunStep where
  | construct (construction : Construction)
  | observe (observation : Observation)
  deriving Repr

/-- Nothing is built if there is nothing at a place, or an item of the wrong sort. -/
def Construction.build (pool : List RememberedItem) : Construction → Option RememberedItem
  | .fresh comparator => some (.leaf (.fresh comparator))
  | .wrap conjunction places =>
      some (.group (.ofItems conjunction (places.filterMap (pool[·]?))))
  | .copy place => pool[place]?
  | .part place inside => (pool[place]?.bind (·.filter?)).bind (·.items.part inside)
  | .withType place type =>
      (pool[place]?.bind (·.comparator?)).map fun leaf => .leaf (leaf.withType type)
  | .withUnderscore place =>
      (pool[place]?.bind (·.comparator?)).map fun leaf => .leaf leaf.withUnderscore
  | .negate place => (pool[place]?.bind (·.filter?)).map fun filter => .group filter.negate
  | .withItem place item =>
      (pool[place]?.bind (·.filter?)).bind fun filter =>
        pool[item]?.map fun item => .group (filter.withItem item)
  | .forUpdate place => (pool[place]?.bind (·.filter?)).map fun filter => .group filter.forUpdate

/-- The items with those that were observed as they are after it. -/
def Observation.watch (hasher : ShapeHasher) (pool : List RememberedItem) :
    Observation → List RememberedItem
  | .ask place path =>
      match pool[place]? with
      | some item => pool.set place (item.askAt hasher path)
      | none => pool
  | .compare place other =>
      match pool[place]?, pool[other]? with
      | some first, some second =>
          let found := first.compare second hasher
          (pool.set place found.first).set other found.second
      | _, _ => pool

namespace RunStep

def apply (hasher : ShapeHasher) (pool : List RememberedItem) : RunStep → List RememberedItem
  | .construct construction => pool ++ (construction.build pool).toList
  | .observe observation => observation.watch hasher pool

def builds : RunStep → Bool
  | .construct _ => true
  | .observe _ => false

/-- The items after some steps that begin with none. -/
def run (hasher : ShapeHasher) (steps : List RunStep) : List RememberedItem :=
  steps.foldl (apply hasher) []

end RunStep

variable {hasher : ShapeHasher} {pool others : List RememberedItem}

/-! ## All memories stay true -/

theorem RememberedItems.truthful_part {items : RememberedItems} (truthful : items.Truthful hasher)
    {place : Nat} {item : RememberedItem} (found : items.part place = some item) :
    item.Truthful hasher := by
  induction items generalizing place with
  | nil => cases found
  | leaf front rest ih =>
      cases place with
      | zero =>
          cases found
          exact truthful.1
      | succ place => exact ih truthful.2 found
  | group conjunction negated memory inner rest _ ih =>
      cases place with
      | zero =>
          cases found
          exact ⟨truthful.1, truthful.2.1⟩
      | succ place => exact ih truthful.2.2 found

section Truthful

variable (truthful : ∀ item ∈ pool, item.Truthful hasher)

include truthful

theorem truthful_comparator_at {place : Nat} {leaf : RememberedComparator}
    (found : (pool[place]?.bind (·.comparator?)) = some leaf) : leaf.Truthful hasher := by
  obtain ⟨item, atPlace, isLeaf⟩ := Option.bind_eq_some_iff.mp found
  cases item with
  | leaf front =>
      cases isLeaf
      exact truthful _ (List.mem_of_getElem? atPlace)
  | group filter => cases isLeaf

theorem truthful_filter_at {place : Nat} {filter : RememberedFilter}
    (found : (pool[place]?.bind (·.filter?)) = some filter) : filter.Truthful hasher := by
  obtain ⟨item, atPlace, isGroup⟩ := Option.bind_eq_some_iff.mp found
  cases item with
  | leaf front => cases isGroup
  | group inner =>
      cases isGroup
      exact truthful _ (List.mem_of_getElem? atPlace)

theorem truthful_build {construction : Construction} {item : RememberedItem}
    (built : construction.build pool = some item) : item.Truthful hasher := by
  cases construction with
  | fresh comparator =>
      cases built
      exact RememberedComparator.truthful_fresh comparator
  | wrap conjunction places =>
      cases built
      apply RememberedFilter.truthful_ofItems
      intro item member
      obtain ⟨place, -, atPlace⟩ := List.mem_filterMap.mp member
      exact truthful item (List.mem_of_getElem? atPlace)
  | copy place => exact truthful item (List.mem_of_getElem? built)
  | part place inside =>
      obtain ⟨filter, found, atPlace⟩ := Option.bind_eq_some_iff.mp built
      exact RememberedItems.truthful_part (truthful_filter_at truthful found).2 atPlace
  | withType place type =>
      obtain ⟨leaf, -, rfl⟩ := Option.map_eq_some_iff.mp built
      exact leaf.truthful_withType type
  | withUnderscore place =>
      obtain ⟨leaf, found, rfl⟩ := Option.map_eq_some_iff.mp built
      exact RememberedComparator.truthful_withUnderscore (truthful_comparator_at truthful found)
  | negate place =>
      obtain ⟨filter, found, rfl⟩ := Option.map_eq_some_iff.mp built
      exact RememberedFilter.truthful_negate (truthful_filter_at truthful found)
  | withItem place inner =>
      obtain ⟨filter, found, extended⟩ := Option.bind_eq_some_iff.mp built
      obtain ⟨last, atPlace, rfl⟩ := Option.map_eq_some_iff.mp extended
      exact RememberedFilter.truthful_withItem (truthful_filter_at truthful found)
        (truthful last (List.mem_of_getElem? atPlace))
  | forUpdate place =>
      obtain ⟨filter, found, rfl⟩ := Option.map_eq_some_iff.mp built
      exact RememberedFilter.truthful_forUpdate (truthful_filter_at truthful found)

theorem truthful_set {place : Nat} {item : RememberedItem} (itemTruthful : item.Truthful hasher) :
    ∀ other ∈ pool.set place item, other.Truthful hasher := by
  intro other member
  rcases List.mem_or_eq_of_mem_set member with before | rfl
  · exact truthful other before
  · exact itemTruthful

theorem truthful_watch (observation : Observation) :
    ∀ item ∈ observation.watch hasher pool, item.Truthful hasher := by
  cases observation with
  | ask place path =>
      cases found : pool[place]? with
      | none =>
          simp only [Observation.watch, found]
          exact truthful
      | some asked =>
          simp only [Observation.watch, found]
          have after := RememberedItem.truthful_askAt
            (truthful asked (List.mem_of_getElem? found)) path
          exact truthful_set truthful after
  | compare place other =>
      cases found : pool[place]? with
      | none =>
          simp only [Observation.watch, found]
          exact truthful
      | some first =>
          cases otherFound : pool[other]? with
          | none =>
              simp only [Observation.watch, found, otherFound]
              exact truthful
          | some second =>
              simp only [Observation.watch, found, otherFound]
              have settles := RememberedItem.settles_compare
                (truthful first (List.mem_of_getElem? found))
                (truthful second (List.mem_of_getElem? otherFound))
              exact truthful_set (truthful_set truthful settles.truthful_first)
                settles.truthful_second

/-- One step, whatever it is, leaves all memories true. -/
theorem truthful_apply (step : RunStep) :
    ∀ item ∈ step.apply hasher pool, item.Truthful hasher := by
  cases step with
  | construct construction =>
      intro item member
      rcases List.mem_append.mp member with before | built
      · exact truthful item before
      · exact truthful_build truthful (Option.mem_toList.mp built)
  | observe observation => exact truthful_watch truthful observation

theorem truthful_foldl (steps : List RunStep) :
    ∀ item ∈ steps.foldl (RunStep.apply hasher) pool, item.Truthful hasher := by
  induction steps generalizing pool with
  | nil => exact truthful
  | cons step rest ih => exact ih (truthful_apply truthful step)

end Truthful

/-- After any run all memories are true. -/
theorem RunStep.truthful_run (steps : List RunStep) :
    ∀ item ∈ run hasher steps, item.Truthful hasher :=
  truthful_foldl (by simp) steps

/-! ## Observations change no shape -/

theorem map_forget_set {place : Nat} {item after : RememberedItem}
    (found : (pool[place]?).map RememberedItem.forget = some item.forget)
    (same : after.forget = item.forget) :
    (pool.set place after).map RememberedItem.forget = pool.map RememberedItem.forget := by
  rw [List.map_set, same]
  rw [← List.getElem?_map] at found
  obtain ⟨inside, atPlace⟩ := List.getElem?_eq_some_iff.mp found
  rw [← atPlace, List.set_getElem_self]

theorem map_forget_watch (truthful : ∀ item ∈ pool, item.Truthful hasher)
    (observation : Observation) :
    (observation.watch hasher pool).map RememberedItem.forget =
      pool.map RememberedItem.forget := by
  cases observation with
  | ask place path =>
      cases found : pool[place]? with
      | none => simp only [Observation.watch, found]
      | some asked =>
          simp only [Observation.watch, found]
          exact map_forget_set (by rw [found, Option.map_some]) (asked.forget_askAt path)
  | compare place other =>
      cases found : pool[place]? with
      | none => simp only [Observation.watch, found]
      | some first =>
          cases otherFound : pool[other]? with
          | none => simp only [Observation.watch, found, otherFound]
          | some second =>
              simp only [Observation.watch, found, otherFound]
              have settles := RememberedItem.settles_compare
                (truthful first (List.mem_of_getElem? found))
                (truthful second (List.mem_of_getElem? otherFound))
              have firstSet := map_forget_set (by rw [found, Option.map_some]) settles.shape_first
              -- The places may be the same one; what stands there still has its shape.
              have stands : ((pool.set place (first.compare second hasher).first)[other]?).map
                  RememberedItem.forget = some second.forget := by
                rw [← List.getElem?_map, firstSet, List.getElem?_map, otherFound, Option.map_some]
              rw [map_forget_set stands settles.shape_second, firstSet]

/-! Building looks at shapes only. -/

section Alike

/-- What is looked up in two things alike is alike. -/
theorem map_bind_congr {α β γ δ : Type} {first second : Option α} {seen : α → β}
    {look look' : α → Option γ} {shape : γ → δ} (alike : first.map seen = second.map seen)
    (respects : ∀ item other, seen item = seen other →
      (look item).map shape = (look' other).map shape) :
    (first.bind look).map shape = (second.bind look').map shape := by
  cases first with
  | none =>
      cases second with
      | none => rfl
      | some other => cases alike
  | some item =>
      cases second with
      | none => cases alike
      | some other => exact respects item other (Option.some.inj alike)

/-- What is made from two things alike is alike. -/
theorem map_map_congr {α β γ δ : Type} {first second : Option α} {seen : α → β}
    {make make' : α → γ} {shape : γ → δ} (alike : first.map seen = second.map seen)
    (respects : ∀ item other, seen item = seen other → shape (make item) = shape (make' other)) :
    (first.map make).map shape = (second.map make').map shape := by
  cases first with
  | none =>
      cases second with
      | none => rfl
      | some other => cases alike
  | some item =>
      cases second with
      | none => cases alike
      | some other => exact congrArg some (respects item other (Option.some.inj alike))

theorem RememberedItem.map_comparator_of_forget_eq {first second : RememberedItem}
    (alike : first.forget = second.forget) :
    first.comparator?.map (·.comparator) = second.comparator?.map (·.comparator) := by
  cases first with
  | leaf front =>
      cases second with
      | leaf other =>
          have same : front.comparator = other.comparator := (FilterItems.leaf.inj alike).1
          simp only [comparator?, Option.map_some, same]
      | group other => cases alike
  | group filter =>
      cases second with
      | leaf other => cases alike
      | group other => rfl

theorem RememberedItem.map_filter_of_forget_eq {first second : RememberedItem}
    (alike : first.forget = second.forget) :
    first.filter?.map (·.forget) = second.filter?.map (·.forget) := by
  cases first with
  | leaf front =>
      cases second with
      | leaf other => rfl
      | group other => cases alike
  | group filter =>
      cases second with
      | leaf other => cases alike
      | group other =>
          obtain ⟨conjunction, negated, items, -⟩ := FilterItems.group.inj alike
          simp only [filter?, Option.map_some, RememberedFilter.forget, conjunction, negated, items]

theorem RememberedItems.map_part_of_forget_eq {first second : RememberedItems}
    (alike : first.forget = second.forget) (place : Nat) :
    (first.part place).map RememberedItem.forget =
      (second.part place).map RememberedItem.forget := by
  induction first generalizing second place with
  | nil =>
      cases second with
      | nil => rfl
      | leaf | group => cases alike
  | leaf front rest ih =>
      cases second with
      | nil | group => cases alike
      | leaf other others =>
          obtain ⟨same, behind⟩ := FilterItems.leaf.inj alike
          cases place with
          | zero =>
              simp only [part, Option.map_some, RememberedItem.forget, RememberedItem.inFrontOf,
                forget, same]
          | succ place => exact ih behind place
  | group conjunction negated memory inner rest _ ih =>
      cases second with
      | nil | leaf => cases alike
      | group other negated' memory' inner' others =>
          obtain ⟨sameConjunction, sameNegation, inside, behind⟩ := FilterItems.group.inj alike
          cases place with
          | zero =>
              simp only [part, Option.map_some, RememberedItem.forget, RememberedItem.inFrontOf,
                forget, sameConjunction, sameNegation, inside]
          | succ place => exact ih behind place

theorem RememberedItems.forget_ofList (items : List RememberedItem) :
    (ofList items).forget = (items.map RememberedItem.forget).foldr (· ++ ·) .nil := by
  induction items with
  | nil => rfl
  | cons item rest ih =>
      have front : (ofList (item :: rest)).forget = (item.inFrontOf (ofList rest)).forget := rfl
      rw [front, RememberedItem.forget_inFrontOf, ih]
      rfl

theorem RememberedFilter.forget_withItem (filter : RememberedFilter) (item : RememberedItem) :
    (filter.withItem item).forget =
      { filter.forget with items := filter.forget.items ++ item.forget } := by
  simp only [withItem, forget, RememberedItems.forget_append]
  rfl

variable (alike : pool.map RememberedItem.forget = others.map RememberedItem.forget)

include alike

theorem map_forget_at (place : Nat) :
    (pool[place]?).map RememberedItem.forget = (others[place]?).map RememberedItem.forget := by
  rw [← List.getElem?_map, alike, List.getElem?_map]

theorem map_comparator_at (place : Nat) :
    (pool[place]?.bind (·.comparator?)).map (·.comparator) =
      (others[place]?.bind (·.comparator?)).map (·.comparator) :=
  map_bind_congr (map_forget_at alike place) fun _ _ => RememberedItem.map_comparator_of_forget_eq

theorem map_filter_at (place : Nat) :
    (pool[place]?.bind (·.filter?)).map (·.forget) =
      (others[place]?.bind (·.filter?)).map (·.forget) :=
  map_bind_congr (map_forget_at alike place) fun _ _ => RememberedItem.map_filter_of_forget_eq

theorem map_forget_build (construction : Construction) :
    (construction.build pool).map RememberedItem.forget =
      (construction.build others).map RememberedItem.forget := by
  cases construction with
  | fresh comparator => rfl
  | wrap conjunction places =>
      have parts : (places.filterMap (pool[·]?)).map RememberedItem.forget =
          (places.filterMap (others[·]?)).map RememberedItem.forget := by
        rw [List.map_filterMap, List.map_filterMap]
        simp only [map_forget_at alike]
      simp only [Construction.build, Option.map_some, RememberedItem.forget,
        RememberedItem.inFrontOf, RememberedItems.forget, RememberedFilter.ofItems,
        RememberedItems.forget_ofList, parts]
  | copy place => exact map_forget_at alike place
  | part place inside =>
      apply map_bind_congr (map_filter_at alike place)
      intro filter other same
      exact RememberedItems.map_part_of_forget_eq (congrArg Filter.items same) inside
  | withType place type =>
      apply map_map_congr (map_comparator_at alike place)
      intro leaf other same
      exact congrArg (fun comparator => FilterItems.leaf (comparator.withType type) .nil) same
  | withUnderscore place =>
      apply map_map_congr (map_comparator_at alike place)
      intro leaf other same
      exact congrArg (fun comparator => FilterItems.leaf comparator.withUnderscore .nil) same
  | negate place =>
      apply map_map_congr (map_filter_at alike place)
      intro filter other same
      exact congrArg (fun filter => filter.negate.asItem) same
  | withItem place inner =>
      apply map_bind_congr (map_filter_at alike place)
      intro filter other same
      apply map_map_congr (map_forget_at alike inner)
      intro item last sameLast
      have extended : (filter.withItem item).forget = (other.withItem last).forget := by
        rw [RememberedFilter.forget_withItem, RememberedFilter.forget_withItem, same, sameLast]
      exact congrArg Filter.asItem extended
  | forUpdate place =>
      apply map_map_congr (map_filter_at alike place)
      intro filter other same
      have renamed : filter.forUpdate.forget = other.forUpdate.forget := by
        rw [RememberedFilter.forget_forUpdate, RememberedFilter.forget_forUpdate, same]
      exact congrArg Filter.asItem renamed

end Alike

/-- A run and the run that only builds end with the same shapes. -/
theorem map_forget_foldl (truthful : ∀ item ∈ pool, item.Truthful hasher)
    (alike : pool.map RememberedItem.forget = others.map RememberedItem.forget)
    (steps : List RunStep) :
    (steps.foldl (RunStep.apply hasher) pool).map RememberedItem.forget =
      ((steps.filter RunStep.builds).foldl (RunStep.apply hasher) others).map
        RememberedItem.forget := by
  induction steps generalizing pool others with
  | nil => exact alike
  | cons step rest ih =>
      have after := truthful_apply truthful step
      cases step with
      | construct construction =>
          apply ih after
          simp only [RunStep.apply, List.map_append, ← Option.toList_map, alike,
            map_forget_build alike construction]
      | observe observation =>
          exact ih after ((map_forget_watch truthful observation).trans alike)

/-! ## What equality sees -/

namespace RememberedItem

/-- The items are found to be the same when they are compared. -/
def FoundSame (hasher : ShapeHasher) (first second : RememberedItem) : Prop :=
  (first.compare second hasher).same = true

theorem foundSame_iff {first second : RememberedItem} (firstTruthful : first.Truthful hasher)
    (secondTruthful : second.Truthful hasher) :
    FoundSame hasher first second ↔ first.forget.SameShape second.forget :=
  (settles_compare firstTruthful secondTruthful).same_iff

/-- Among items with true memories, being found the same is an equivalence. -/
theorem equivalence_foundSame (truthful : ∀ item ∈ pool, item.Truthful hasher) :
    Equivalence fun first second : { item // item ∈ pool } =>
      FoundSame hasher first.val second.val := by
  have decides (first second : { item // item ∈ pool }) :
      FoundSame hasher first.val second.val ↔ first.val.forget.SameShape second.val.forget :=
    foundSame_iff (truthful _ first.property) (truthful _ second.property)
  refine ⟨?_, ?_, ?_⟩
  · intro item
    exact (decides item item).mpr (.refl _)
  · intro first second same
    exact (decides second first).mpr ((decides first second).mp same).symm
  · intro first second third same next
    exact (decides first third).mpr
      (((decides first second).mp same).trans ((decides second third).mp next))

end RememberedItem

end SqlCompiler
