/-!
# Replacing a pattern in a text

Quotes are doubled inside quoted identifiers, halved when the quotes are
taken off, and column names are put into function templates.  All three are
one replacement that scans from left to right and goes on behind each match.
-/

namespace SqlCompiler

namespace Text

/--
Replace every occurrence of a pattern, scanning from left to right.

An empty pattern occurs nowhere, so it replaces nothing.
-/
def replaceAll (pattern replacement : List Char) : List Char → List Char
  | [] => []
  | c :: rest =>
      if pattern ≠ [] ∧ pattern.isPrefixOf (c :: rest) then
        replacement ++
          replaceAll pattern replacement ((c :: rest).drop pattern.length)
      else
        c :: replaceAll pattern replacement rest
termination_by text => text.length
decreasing_by
  · rename_i found
    have patternLength : 0 < pattern.length :=
      List.length_pos_iff.mpr found.1
    simp only [List.length_drop, List.length_cons]
    omega
  · simp

def occursIn (pattern : List Char) : List Char → Bool
  | [] => pattern.isEmpty
  | c :: rest => pattern.isPrefixOf (c :: rest) || occursIn pattern rest

theorem occursIn_append (front pattern back : List Char) :
    occursIn pattern (front ++ pattern ++ back) = true := by
  induction front with
  | nil => cases pattern <;> cases back <;> simp [occursIn]
  | cons c front ih => simp only [List.cons_append, occursIn, ih, Bool.or_true]

@[simp]
theorem replaceAll_nil (pattern replacement : List Char) :
    replaceAll pattern replacement [] = [] := by
  rw [replaceAll]

/-- Replacing the empty pattern keeps the text. -/
@[simp]
theorem replaceAll_nil_pattern (replacement text : List Char) :
    replaceAll [] replacement text = text := by
  induction text with
  | nil => simp
  | cons c rest ih => rw [replaceAll]; simp [ih]

/-- The replacement of a single character acts on every character by itself. -/
theorem replaceAll_singleton (mark : Char) (replacement text : List Char) :
    replaceAll [mark] replacement text =
      text.flatMap (fun c => if c = mark then replacement else [c]) := by
  induction text with
  | nil => simp
  | cons c rest ih =>
      rw [replaceAll]
      by_cases same : mark = c
      · subst same
        simp [ih]
      · have different : ¬ c = mark := fun equal => same equal.symm
        simp [ih, same, different]

end Text

end SqlCompiler
