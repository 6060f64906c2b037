import Mathlib.Data.List.Basic

/-!
# The numbers in a text

The numbers in a text are its longest runs of digits, read in base ten.  A
character that is no digit cuts a text in two, so a number that was written
between two such characters is read back as it was.
-/

namespace SqlCompiler

namespace Text

def numbers (text : List Char) : List Nat :=
  ((text.splitOnP (!·.isDigit)).filter (!·.isEmpty)).map (Nat.ofDigitChars 10 · 0)

/-- The last two numbers of a text. -/
def lastNumbers? (text : List Char) : Option (Nat × Nat) :=
  match (numbers text).reverse with
  | second :: first :: _ => some (first, second)
  | _ => none

theorem numbers_append_cons {c : Char} (cut : c.isDigit = false) (front rest : List Char) :
    numbers (front ++ c :: rest) = numbers front ++ numbers rest := by
  have splits : (!c.isDigit) = true := by rw [cut]; rfl
  rw [numbers, List.splitOnP_append_cons front rest splits, List.filter_append, List.map_append]
  rfl

theorem numbers_toDigits (number : Nat) : numbers (Nat.toDigits 10 number) = [number] := by
  have digits : ∀ c ∈ Nat.toDigits 10 number, (!c.isDigit) = false := by
    intro c member
    rw [Nat.isDigit_of_mem_toDigits (by decide) (by decide) member]
    rfl
  have nonempty : (Nat.toDigits 10 number).isEmpty = false :=
    List.isEmpty_eq_false_iff.mpr Nat.toDigits_ne_nil
  rw [numbers, List.splitOnP_eq_singleton digits]
  simp [nonempty, Nat.ofDigitChars_ten_toDigits]

/-- Two numbers with none between and none behind are the last two of a text. -/
theorem lastNumbers?_append (front : List Char) (first : Nat) (middle : List Char)
    (second : Nat) (rest : List Char) {before after : Char}
    (before_cut : before.isDigit = false) (after_cut : after.isDigit = false)
    (middle_plain : numbers middle = []) (rest_plain : numbers rest = []) :
    lastNumbers? (front ++ ' ' :: (Nat.toDigits 10 first ++ before ::
        (middle ++ ' ' :: (Nat.toDigits 10 second ++ after :: rest)))) =
      some (first, second) := by
  have space : ' '.isDigit = false := rfl
  have read : numbers (front ++ ' ' :: (Nat.toDigits 10 first ++ before ::
      (middle ++ ' ' :: (Nat.toDigits 10 second ++ after :: rest)))) =
      numbers front ++ [first, second] := by
    simp only [numbers_append_cons space, numbers_append_cons before_cut,
      numbers_append_cons after_cut, numbers_toDigits, middle_plain, rest_plain, List.nil_append,
      List.append_nil, List.singleton_append]
  simp [lastNumbers?, read]

example : lastNumbers? "LIMIT 25 OFFSET 100 ".toList = some (25, 100) := by
  decide +kernel

end Text

end SqlCompiler
