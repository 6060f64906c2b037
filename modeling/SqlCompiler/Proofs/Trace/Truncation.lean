import Mathlib.Data.List.Infix
import SqlCompiler.Proofs.Text.Slices
import SqlCompiler.Trace

/-!
# Where a traced text is cut

A text that is too long is cut at a byte position, which is searched for from
the limit downwards.  The search ends at a boundary of characters and passes
none, so the slice up to it is the longest initial part made of whole
characters that has at most as many bytes as the limit; it is empty if already
the first character is longer.  Since a character has at most four bytes, the
search takes three steps at most.
-/

namespace SqlCompiler

namespace Trace

/-- The longest initial part of a text that has at most so many bytes. -/
structure IsLongestWithin (text : String) (limit : Nat) (kept : String) : Prop where
  isPrefix : kept.toList <+: text.toList
  within : kept.utf8ByteSize ≤ limit
  longest : ∀ other : String, other.toList <+: text.toList → other.utf8ByteSize ≤ limit →
    other.toList <+: kept.toList

theorem boundaryBelow_le (text : String) (position : Nat) :
    boundaryBelow text position ≤ position := by
  induction position with
  | zero => exact Nat.le_refl 0
  | succ position ih =>
      unfold boundaryBelow
      split
      · exact Nat.le_refl _
      · exact Nat.le_succ_of_le ih

theorem isBoundary_boundaryBelow (text : String) (position : Nat) :
    Text.isBoundary text (boundaryBelow text position) = true := by
  induction position with
  | zero => exact Text.isBoundary_iff.mpr ⟨"", text, by simp, rfl⟩
  | succ position ih =>
      unfold boundaryBelow
      split
      next found => exact found
      next => exact ih

/-- The search passes no boundary. -/
theorem le_boundaryBelow {text : String} {boundary position : Nat}
    (isBoundary : Text.isBoundary text boundary = true) (below : boundary ≤ position) :
    boundary ≤ boundaryBelow text position := by
  induction position with
  | zero => exact below
  | succ position ih =>
      unfold boundaryBelow
      split
      next => exact below
      next other =>
        have different : boundary ≠ position + 1 := by
          rintro rfl
          exact other isBoundary
        exact ih (by omega)

/-- An initial part and what it leaves make up the text. -/
theorem exists_append_of_isPrefix {front text : String} (initial : front.toList <+: text.toList) :
    ∃ back, text = front ++ back := by
  obtain ⟨back, whole⟩ := initial
  exact ⟨.ofList back, String.toList_inj.mp (by simp [whole])⟩

/-- What stands in front of the boundary that the search ends at is the longest part. -/
theorem exists_isLongestWithin (text : String) (limit : Nat) :
    ∃ kept : String, boundaryBelow text limit = kept.utf8ByteSize ∧
      IsLongestWithin text limit kept := by
  obtain ⟨kept, back, whole, size⟩ :=
    Text.isBoundary_iff.mp (isBoundary_boundaryBelow text limit)
  have isPrefix : kept.toList <+: text.toList := by simp [whole]
  refine ⟨kept, size, isPrefix, size ▸ boundaryBelow_le text limit, ?_⟩
  intro other initial within
  rcases List.prefix_or_prefix_of_prefix initial isPrefix with shorter | longer
  · exact shorter
  · -- The end of another part is a boundary, so the search would have met it first.
    obtain ⟨rest, split⟩ := exists_append_of_isPrefix initial
    have notLonger : other.utf8ByteSize ≤ kept.utf8ByteSize := by
      rw [← size]
      exact le_boundaryBelow (Text.isBoundary_iff.mpr ⟨other, rest, split, rfl⟩) within
    obtain ⟨added, same⟩ := exists_append_of_isPrefix longer
    rw [same, String.utf8ByteSize_append] at notLonger
    have none : added = "" := String.utf8ByteSize_eq_zero_iff.mp (by omega)
    rw [same, none, String.append_empty]

section Search

variable {text : String} {limit : Nat} {kept : String} (longest : IsLongestWithin text limit kept)
  (size : boundaryBelow text limit = kept.utf8ByteSize)
include longest size

theorem IsLongestWithin.slice?_eq :
    Text.slice? text 0 (boundaryBelow text limit) = some kept := by
  obtain ⟨back, whole⟩ := exists_append_of_isPrefix longest.isPrefix
  rw [size, whole]
  simpa using Text.slice?_append "" kept back

/-- A character has at most four bytes, so the search takes at most three steps. -/
theorem IsLongestWithin.lt_boundaryBelow_add :
    min limit text.utf8ByteSize < boundaryBelow text limit + 4 := by
  obtain ⟨back, whole⟩ := exists_append_of_isPrefix longest.isPrefix
  rw [size]
  cases rest : back.toList with
  | nil =>
      have all : text = kept := by
        rw [whole, String.toList_eq_nil_iff.mp rest, String.append_empty]
      rw [all]
      omega
  | cons c others =>
      have notWithin : limit < kept.utf8ByteSize + c.utf8Size := by
        by_contra fits
        let more := kept ++ .singleton c
        have initial : more.toList <+: text.toList := by
          exact ⟨others, by simp [more, whole, rest]⟩
        have within : more.utf8ByteSize ≤ limit := by
          simp only [more, String.utf8ByteSize_append, String.utf8ByteSize_singleton]
          omega
        have shorter := (longest.longest more initial within).length_le
        simp [more] at shorter
      have atMostFour := c.utf8Size_le_four
      omega

end Search

/--
A text within the limit is traced as it is.  From any other one the longest
part made of whole characters within the limit is left, which may be empty:
the slice up to the boundary that a search downwards from the limit ends at.
-/
theorem truncate_keeps_longest (text : String) (limit : Nat) :
    ∃ kept : String, IsLongestWithin text limit kept ∧
      Text.slice? text 0 (boundaryBelow text limit) = some kept ∧
      min limit text.utf8ByteSize < boundaryBelow text limit + 4 ∧
      truncate text (some limit) =
        if text.utf8ByteSize ≤ limit then text else kept ++ "..." := by
  obtain ⟨kept, size, longest⟩ := exists_isLongestWithin text limit
  refine ⟨kept, longest, longest.slice?_eq size, longest.lt_boundaryBelow_add size, ?_⟩
  by_cases fits : text.utf8ByteSize ≤ limit
  · rw [truncate, if_neg (Nat.not_lt.mpr fits), if_pos fits]
  · rw [truncate, if_pos (Nat.lt_of_not_le fits), if_neg fits, keptPart, if_neg fits,
      Text.extract_of_slice? (longest.slice?_eq size)]
    rfl

example : truncate "SELECT é" (some 8) = "SELECT ..." := by
  decide

end Trace

end SqlCompiler
