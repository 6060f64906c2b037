import Mathlib.Data.List.Nodup
import Mathlib.Data.List.Perm.Subperm
import Std.Data.String.ToNat
import SqlCompiler.Filter.Naming

/-!
# Names handed out by a namer are free

The search for a number tries one number more than there are taken names.
Distinct numbers make distinct names, so one of the numbers tried is free, and
what a namer hands out is never taken.  A row number is added afterwards to
every name alike, which keeps distinct names distinct.
-/

namespace SqlCompiler

theorem withRow_injective (row : Nat) : Function.Injective (withRow · row) := by
  intro first second equal
  by_cases front : row = 0
  · simpa [withRow, front] using equal
  · simpa [withRow, front, String.append_assoc] using equal

namespace Namer

theorem numbered_injective (stem : String) : Function.Injective (numbered stem) := by
  intro first second equal
  simp only [numbered, toString, String.append_right_inj] at equal
  exact Nat.repr_injective equal

theorem numbered_mem_of_lt_freeNumber {taken : List String} {stem : String}
    {number trials other : Nat} (lower : number ≤ other)
    (upper : other < freeNumber taken stem number trials) :
    numbered stem other ∈ taken := by
  induction trials generalizing number with
  | zero =>
      simp only [freeNumber] at upper
      omega
  | succ trials ih =>
      unfold freeNumber at upper
      split at upper
      next found =>
        obtain rfl | above := Nat.eq_or_lt_of_le lower
        · simpa using found
        · exact ih above upper
      next => omega

/-- The search ends at a taken name only when it runs out of trials. -/
theorem freeNumber_eq_of_mem {taken : List String} {stem : String} {number trials : Nat}
    (found : numbered stem (freeNumber taken stem number trials) ∈ taken) :
    freeNumber taken stem number trials = number + trials := by
  induction trials generalizing number with
  | zero => rfl
  | succ trials ih =>
      unfold freeNumber at found ⊢
      split
      next here =>
        rw [if_pos here] at found
        rw [ih found]
        omega
      next free =>
        rw [if_neg free] at found
        simp [found] at free

/-- With a trial for each taken name the search ends at a free name. -/
theorem numbered_freeNumber_not_mem (taken : List String) (stem : String) (number : Nat) :
    numbered stem (freeNumber taken stem number taken.length) ∉ taken := by
  intro found
  have exhausted := freeNumber_eq_of_mem found
  let tried := (List.range' number (taken.length + 1)).map (numbered stem)
  have numbers : (List.range' number (taken.length + 1)).Nodup := List.nodup_range'
  have distinct : tried.Nodup := numbers.map (numbered_injective stem)
  have allTaken : tried ⊆ taken := by
    intro name member
    obtain ⟨other, within, rfl⟩ := List.mem_map.mp member
    obtain ⟨lower, upper⟩ := List.mem_range'_1.mp within
    by_cases last : other = number + taken.length
    · rwa [last, ← exhausted]
    · have below : other < freeNumber taken stem number taken.length := by omega
      exact numbered_mem_of_lt_freeNumber lower below
  have tooMany := (distinct.subperm allTaken).length_le
  simp only [tried, List.length_map, List.length_range'] at tooMany
  omega

theorem next_fst_not_mem (namer : Namer) (stem : String) :
    (namer.next stem).1 ∉ namer.taken := by
  unfold next
  split
  next => exact numbered_freeNumber_not_mem _ _ _
  next free => simpa using free

end Namer

end SqlCompiler
