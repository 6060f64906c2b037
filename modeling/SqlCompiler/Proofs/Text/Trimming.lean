import Mathlib.Data.List.DropRight
import SqlCompiler.Text.WhiteSpace

/-!
# What trimming takes away

Trimming takes white space from both ends of a text and nothing else, so a
text is blank if and only if it is blank when trimmed.  What is left neither
starts nor ends with a space, and a second trim finds nothing more to take.
-/

namespace SqlCompiler

namespace Text

theorem exists_eq_append_trimBoth (text : List Char) :
    ∃ front back, text = front ++ trimBoth text ++ back ∧
      (∀ c ∈ front, isWhiteSpace c = true) ∧ ∀ c ∈ back, isWhiteSpace c = true := by
  let inner := trimFront text
  refine ⟨text.takeWhile isWhiteSpace, (inner.reverse.takeWhile isWhiteSpace).reverse,
    ?_, fun c member => ?_, fun c member => ?_⟩
  · have back : trimBack inner ++ (inner.reverse.takeWhile isWhiteSpace).reverse = inner := by
      rw [trimBack, trimFront, ← List.reverse_append, List.takeWhile_append_dropWhile,
        List.reverse_reverse]
    rw [List.append_assoc, trimBoth, back]
    exact List.takeWhile_append_dropWhile.symm
  · exact List.mem_takeWhile_imp member
  · exact List.mem_takeWhile_imp (List.mem_reverse.mp member)

theorem trimFront_trimFront (text : List Char) : trimFront (trimFront text) = trimFront text :=
  List.dropWhile_idempotent isWhiteSpace text

theorem trimBack_trimBack (text : List Char) : trimBack (trimBack text) = trimBack text :=
  List.rdropWhile_idempotent isWhiteSpace text

/-- What is trimmed at the back leaves the first character where it is. -/
theorem trimFront_trimBack {text : List Char} (trimmed : trimFront text = text) :
    trimFront (trimBack text) = trimBack text := by
  have kept : trimBack text <+: text := List.rdropWhile_prefix isWhiteSpace text
  refine List.dropWhile_eq_self_iff.mpr fun nonempty => ?_
  rw [kept.getElem nonempty]
  exact List.dropWhile_eq_self_iff.mp trimmed (nonempty.trans_le kept.length_le)

theorem trimBoth_trimBoth (text : List Char) : trimBoth (trimBoth text) = trimBoth text := by
  have front : trimFront (trimBoth text) = trimBoth text :=
    trimFront_trimBack (trimFront_trimFront text)
  rw [trimBoth, front]
  exact trimBack_trimBack (trimFront text)

@[simp]
theorem trim_trim (text : String) : trim (trim text) = trim text := by
  rw [trim, toList_trim, trimBoth_trimBoth]
  rfl

@[simp]
theorem isBlank_trim (text : String) : isBlank (trim text) = isBlank text := by
  obtain ⟨front, back, parts, frontSpace, backSpace⟩ := exists_eq_append_trimBoth text.toList
  have whole : text.toList.all isWhiteSpace = (trimBoth text.toList).all isWhiteSpace := by
    conv_lhs => rw [parts]
    rw [List.all_append, List.all_append, List.all_eq_true.mpr frontSpace,
      List.all_eq_true.mpr backSpace, Bool.true_and, Bool.and_true]
  rw [isBlank, isBlank, toList_trim, whole]

end Text

end SqlCompiler
