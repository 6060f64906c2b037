import Mathlib.Data.List.Basic
import SqlCompiler.Statement.Words

/-!
# The spaces of finished texts

Every word that is not empty has a space behind it, and the space behind the
terminator is trimmed off.  So the words stand in a finished text with one
space between them, and so do the texts of several statements, whatever else
they have inside.
-/

namespace SqlCompiler

namespace StatementText

/-- Words that are not empty, each followed by one space. -/
def spaced (words : List String) : List Char :=
  (words.filter (!·.isEmpty)).flatMap fun word => (word ++ " ").toList

theorem spaced_append (first second : List String) :
    spaced (first ++ second) = spaced first ++ spaced second := by
  simp [spaced]

theorem spaced_singleton {word : String} (nonempty : word ≠ "") :
    spaced [word] = word.toList ++ [' '] := by
  simp [spaced, nonempty]

/-- The space behind the terminator is the only one that is trimmed off. -/
theorem toList_finished_ofWords (words : List String) :
    (ofWords (words ++ [terminator])).finished.toList = spaced words ++ [';'] := by
  have joined : (String.join ((ofWords (words ++ [terminator])).words.map (· ++ " "))).toList =
      spaced words ++ [';'] ++ [' '] := by
    rw [String.toList_join, List.flatMap_map, words_ofWords, List.append_assoc]
    exact spaced_append words [terminator]
  rw [finished, Text.toList_trimEnd, joined, Text.trimBack_append_of_space rfl,
    Text.trimBack_append_of_not_space rfl]

/-- The last word is the terminator. -/
def Terminated (words : List String) : Prop :=
  ∃ front, words = front ++ [terminator]

theorem Terminated.append {words : List String} (terminated : Terminated words)
    (before : List String) : Terminated (before ++ words) := by
  obtain ⟨front, rfl⟩ := terminated
  exact ⟨before ++ front, (List.append_assoc ..).symm⟩

/-- The words that are not empty, with one space between them. -/
def joined (words : List String) : String :=
  " ".intercalate (words.filter (!·.isEmpty))

theorem flatMap_space_append (words : List (List Char)) (last : List Char) :
    (words.flatMap fun word => word ++ [' ']) ++ last = [' '].intercalate (words ++ [last]) := by
  induction words with
  | nil => simp
  | cons word rest ih =>
      have more : rest ++ [last] ≠ [] := by simp
      rw [List.flatMap_cons, List.append_assoc, ih, List.cons_append,
        List.intercalate_cons_of_ne_nil more]

theorem Terminated.finished_eq_joined {words : List String} (terminated : Terminated words) :
    (ofWords words).finished = joined words := by
  obtain ⟨front, rfl⟩ := terminated
  apply String.toList_injective
  have spaces : spaced front =
      ((front.filter (!·.isEmpty)).map String.toList).flatMap fun word => word ++ [' '] := by
    rw [List.flatMap_map]
    simp [spaced]
  rw [toList_finished_ofWords, spaces, flatMap_space_append, joined, String.toList_intercalate]
  simp [terminator]

theorem Terminated.exists_finished {words : List String} (terminated : Terminated words) :
    ∃ front, (ofWords words).finished = front ++ terminator := by
  obtain ⟨front, rfl⟩ := terminated
  refine ⟨String.ofList (spaced front), String.toList_injective ?_⟩
  rw [toList_finished_ofWords]
  simp [terminator]

/-- Two finished texts behind each other have one space between them. -/
theorem finished_ofWords_append {first second : List String} (ends : Terminated first)
    (endsToo : Terminated second) :
    (ofWords (first ++ second)).finished =
      (ofWords first).finished ++ " " ++ (ofWords second).finished := by
  obtain ⟨first, rfl⟩ := ends
  obtain ⟨second, rfl⟩ := endsToo
  apply String.toList_injective
  rw [String.toList_append, String.toList_append, toList_finished_ofWords,
    toList_finished_ofWords, ← List.append_assoc, toList_finished_ofWords, spaced_append,
    spaced_append, spaced_singleton (by decide)]
  simp [terminator]

/-- Rows that are written one after the other. -/
def rowWords (row : Nat → List String) (rows : Nat) : List String :=
  (List.range rows).flatMap row

section Rows

variable {row : Nat → List String} (terminated : ∀ index, Terminated (row index))

include terminated

theorem terminated_rowWords (rows : Nat) : Terminated (rowWords row (rows + 1)) := by
  rw [rowWords, List.range_succ, List.flatMap_append, List.flatMap_singleton]
  exact (terminated rows).append _

/-- One more row adds a space and the text of the row. -/
theorem finished_rowWords_succ (rows : Nat) :
    (ofWords (rowWords row (rows + 2))).finished =
      (ofWords (rowWords row (rows + 1))).finished ++ " " ++
        (ofWords (row (rows + 1))).finished := by
  have oneMore : rowWords row (rows + 2) = rowWords row (rows + 1) ++ row (rows + 1) := by
    rw [rowWords, List.range_succ, List.flatMap_append, List.flatMap_singleton, ← rowWords]
  rw [oneMore, finished_ofWords_append (terminated_rowWords terminated rows)
    (terminated (rows + 1))]

/-- The texts of the rows are joined by single spaces. -/
theorem finished_rowWords (rows : Nat) :
    (ofWords (rowWords row (rows + 1))).finished =
      " ".intercalate
        ((List.range (rows + 1)).map fun index => (ofWords (row index)).finished) := by
  induction rows with
  | zero => simp [rowWords]
  | succ rows ih =>
      rw [finished_rowWords_succ terminated, ih, @List.range_succ (rows + 1),
        List.map_append, String.intercalate_append_of_ne_nil (by simp) (by simp),
        List.map_singleton, String.intercalate_singleton]

end Rows

end StatementText

namespace Statement

theorem terminated_allWords (setting : Setting) {statements : List Statement}
    (nonempty : statements ≠ []) : StatementText.Terminated (allWords setting statements) := by
  obtain ⟨front, last, rfl⟩ := List.eq_nil_or_concat' statements |>.resolve_left nonempty
  rw [allWords_append, allWords_singleton]
  exact StatementText.Terminated.append ⟨last.body setting, rfl⟩ _

/-- The text of some statements is their words with one space between them. -/
theorem finished_allWords (setting : Setting) (statements : List Statement) :
    (StatementText.ofWords (allWords setting statements)).finished =
      StatementText.joined (allWords setting statements) := by
  cases statements with
  | nil => rfl
  | cons first rest =>
      exact (terminated_allWords setting (List.cons_ne_nil first rest)).finished_eq_joined

end Statement

end SqlCompiler
