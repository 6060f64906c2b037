import SqlCompiler.Proofs.Text.Trimming
import SqlCompiler.Text.Keyword

/-!
# Characters that a keyword keeps

A keyword is trimmed and written in lower case.  A character that is neither a
letter nor white space is not touched by that: it occurs in the keyword as
often as in the text.
-/

namespace SqlCompiler

namespace Text

/-- The lower case of a letter is a letter. -/
theorem toLower_eq_iff {mark : Char} (notLetter : mark.isAlpha = false) (c : Char) :
    c.toLower = mark ↔ c = mark := by
  have apart : mark.isUpper = false ∧ mark.isLower = false := Bool.or_eq_false_iff.mp notLetter
  obtain ⟨notUpper, notLower⟩ := apart
  unfold Char.toLower
  split
  next upper =>
    constructor
    · rintro rfl
      unfold Char.isLower at notLower
      grind [UInt32.le_iff_toNat_le, UInt32.toNat_add]
    · rintro rfl
      unfold Char.isUpper at notUpper
      grind
  next => rfl

variable {mark : Char}

theorem count_trimBoth (notSpace : isWhiteSpace mark = false) (text : List Char) :
    (trimBoth text).count mark = text.count mark := by
  obtain ⟨front, back, parts, frontSpace, backSpace⟩ := exists_eq_append_trimBoth text
  have absent {part : List Char} (space : ∀ c ∈ part, isWhiteSpace c = true) :
      part.count mark = 0 := by
    refine List.count_eq_zero.mpr fun member => ?_
    rw [space mark member] at notSpace
    cases notSpace
  conv_rhs => rw [parts]
  rw [List.count_append, List.count_append, absent frontSpace, absent backSpace, Nat.zero_add,
    Nat.add_zero]

theorem count_map_toLower (notLetter : mark.isAlpha = false) (text : List Char) :
    (text.map Char.toLower).count mark = text.count mark := by
  rw [List.count, List.countP_map]
  refine List.countP_congr fun c _ => ?_
  simp only [Function.comp_apply, beq_iff_eq]
  exact toLower_eq_iff notLetter c

theorem count_plainKeyword (notLetter : mark.isAlpha = false)
    (notSpace : isWhiteSpace mark = false) (text : String) :
    (plainKeyword text).toList.count mark = text.toList.count mark := by
  rw [plainKeyword, asciiLower, String.toList_ofList, count_map_toLower notLetter, toList_trim,
    count_trimBoth notSpace]

end Text

end SqlCompiler
