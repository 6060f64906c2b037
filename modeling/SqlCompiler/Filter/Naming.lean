import SqlCompiler.Filter.Basic

/-!
# Names for the parameters of a filter

A filter can hold several comparators with one stem, so stems are handed out
by a namer while a tree is walked from left to right.  A stem that is still
free is taken as it is.  Otherwise the stem gets a number behind a low line:
the least number above all those already used for this stem that makes a free
name.  Taken names include plain stems of other columns such as `Id_1`.
-/

namespace SqlCompiler

/-- The names handed out so far and the last number used for each stem. -/
structure Namer where
  taken : List String := []
  numbers : List (String × Nat) := []
  deriving Repr

namespace Namer

def numbered (stem : String) (number : Nat) : String :=
  stem ++ "_" ++ toString number

def lastNumber (namer : Namer) (stem : String) : Nat :=
  ((namer.numbers.find? (·.1 == stem)).map Prod.snd).getD 0

/--
The first number from a given one on that makes a free name.

Distinct numbers make distinct names, so among one more number than there are
taken names one is free; `trials` therefore starts as the number of taken names.
-/
def freeNumber (taken : List String) (stem : String) (number : Nat) : Nat → Nat
  | 0 => number
  | trials + 1 =>
      if taken.contains (numbered stem number) then
        freeNumber taken stem (number + 1) trials
      else number

def next (namer : Namer) (stem : String) : String × Namer :=
  if namer.taken.contains stem then
    let number := freeNumber namer.taken stem (namer.lastNumber stem + 1) namer.taken.length
    let name := numbered stem number
    (name, { taken := name :: namer.taken, numbers := (stem, number) :: namer.numbers })
  else
    (stem, { namer with taken := stem :: namer.taken })

/-- A stem that is still free is handed out as it is. -/
theorem next_of_free {namer : Namer} {stem : String}
    (free : stem ∉ namer.taken) :
    namer.next stem = (stem, { namer with taken := stem :: namer.taken }) := by
  simp [next, free]

/-- The name that was handed out is taken. -/
theorem taken_next (namer : Namer) (stem : String) :
    (namer.next stem).2.taken = (namer.next stem).1 :: namer.taken := by
  unfold next
  split <;> rfl

end Namer

end SqlCompiler
