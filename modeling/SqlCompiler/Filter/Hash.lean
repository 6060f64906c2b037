import SqlCompiler.Filter.Basic

/-!
# Hashes of shapes

Filters are hashed by their shapes.  The hash of a comparator is made from its
name, comparison, declared type and kind; that of a group from its conjunction,
its negation and the hashes of its items, where a comparator counts with the
hash of its hash.  The functions that hash are left open.  Neither hash is ever
zero, because zero marks a memory in which there is none.
-/

namespace SqlCompiler

/-- The functions that hash the shape of a comparator, a word and a group. -/
structure ShapeHasher where
  shape : Comparator.Shape → UInt64
  word : UInt64 → UInt64
  group : Conjunction → Bool → List UInt64 → UInt64

namespace ShapeHasher

def standard : ShapeHasher where
  shape := hash
  word := hash
  group conjunction negated items := hash (conjunction, negated, items)

/-- The least hash stands for zero as well. -/
def nonzero (word : UInt64) : UInt64 :=
  max word 1

def ofComparator (hasher : ShapeHasher) (comparator : Comparator) : UInt64 :=
  nonzero (hasher.shape comparator.shape)

def ofGroup (hasher : ShapeHasher) (conjunction : Conjunction) (negated : Bool)
    (items : List UInt64) : UInt64 :=
  nonzero (hasher.group conjunction negated items)

end ShapeHasher

/-- The hashes with which items count in the hash of their group. -/
def FilterItems.hashes (hasher : ShapeHasher) : FilterItems → List UInt64
  | .nil => []
  | .leaf comparator rest =>
      hasher.word (hasher.ofComparator comparator) :: rest.hashes hasher
  | .group conjunction negated items rest =>
      hasher.ofGroup conjunction negated (items.hashes hasher) :: rest.hashes hasher

def Filter.shapeHash (filter : Filter) (hasher : ShapeHasher) : UInt64 :=
  hasher.ofGroup filter.conjunction filter.negated (filter.items.hashes hasher)

instance : Hashable Filter where
  hash filter := filter.shapeHash .standard

end SqlCompiler
