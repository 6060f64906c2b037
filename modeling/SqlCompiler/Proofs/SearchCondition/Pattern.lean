import Mathlib.Data.List.Infix

/-!
# What a LIKE pattern matches

A pattern is matched against a whole string, from left to right.  A percent
sign stands for any sequence of characters, a low line for any single one, and
every other character for itself.  There is no escape character, so no pattern
can tell a percent sign or a low line of the string from other characters:
such characters of a string can be exchanged for any other, and whatever
matched it still does.
-/

namespace SqlCompiler

namespace Pattern

/-- The string matches the pattern; a percent sign tries every rest of the string. -/
def accepts : List Char → List Char → Bool
  | [], string => string.isEmpty
  | mark :: pattern, string =>
      if mark = '%' then string.tails.any (accepts pattern)
      else
        match string with
        | [] => false
        | c :: rest => (mark = '_' || mark = c) && accepts pattern rest

/-- The character stands for others in a pattern. -/
def IsWildcard (c : Char) : Prop :=
  c = '%' ∨ c = '_'
  deriving Decidable

/-- A text that stands for itself only. -/
def IsPlain (text : List Char) : Prop :=
  ∀ c ∈ text, ¬ IsWildcard c
  deriving Decidable

theorem accepts_percent_iff {pattern string : List Char} :
    accepts ('%' :: pattern) string = true ↔
      ∃ skipped rest, string = skipped ++ rest ∧ accepts pattern rest = true := by
  simp only [accepts, if_pos, List.any_eq_true, List.mem_tails]
  constructor
  · rintro ⟨rest, ⟨skipped, rfl⟩, matched⟩
    exact ⟨skipped, rest, rfl, matched⟩
  · rintro ⟨skipped, rest, rfl, matched⟩
    exact ⟨rest, List.suffix_append skipped rest, matched⟩

/-- Any other character of a pattern reads one character of the string. -/
theorem accepts_cons_iff {mark : Char} (single : mark ≠ '%') {pattern string : List Char} :
    accepts (mark :: pattern) string = true ↔
      ∃ c rest, string = c :: rest ∧ (mark = '_' ∨ mark = c) ∧ accepts pattern rest = true := by
  cases string with
  | nil => simp [accepts, single]
  | cons c rest => simp [accepts, single]

theorem accepts_nil_iff {string : List Char} : accepts [] string = true ↔ string = [] := by
  simp [accepts]

/-- A pattern that is made of two matches what is made of a match of each. -/
theorem accepts_append_iff {first second string : List Char} :
    accepts (first ++ second) string = true ↔
      ∃ front back, string = front ++ back ∧ accepts first front = true ∧
        accepts second back = true := by
  induction first generalizing string with
  | nil => simp [accepts_nil_iff]
  | cons mark first ih =>
      rw [List.cons_append]
      by_cases any : mark = '%'
      · subst any
        simp only [accepts_percent_iff, ih]
        constructor
        · rintro ⟨skipped, _, rfl, front, back, rfl, left, right⟩
          exact ⟨skipped ++ front, back, by simp, ⟨skipped, front, rfl, left⟩, right⟩
        · rintro ⟨_, back, rfl, ⟨skipped, front, rfl, left⟩, right⟩
          exact ⟨skipped, front ++ back, by simp, front, back, rfl, left, right⟩
      · simp only [accepts_cons_iff any, ih]
        constructor
        · rintro ⟨c, _, rfl, fits, front, back, rfl, left, right⟩
          exact ⟨c :: front, back, rfl, ⟨c, front, rfl, fits, left⟩, right⟩
        · rintro ⟨_, back, rfl, ⟨c, front, rfl, fits, left⟩, right⟩
          exact ⟨c, front ++ back, rfl, fits, front, back, rfl, left, right⟩

theorem accepts_percent (string : List Char) : accepts ['%'] string = true :=
  accepts_percent_iff.mpr ⟨string, [], (List.append_nil string).symm, rfl⟩

/-- Every text matches itself. -/
theorem accepts_self (text : List Char) : accepts text text = true := by
  induction text with
  | nil => rfl
  | cons c rest ih =>
      by_cases any : c = '%'
      · subst any
        exact accepts_percent_iff.mpr ⟨['%'], rest, rfl, ih⟩
      · exact (accepts_cons_iff any).mpr ⟨c, rest, rfl, .inr rfl, ih⟩

/-- A plain text matches nothing but itself. -/
theorem accepts_iff_of_isPlain {text : List Char} (plain : IsPlain text) {string : List Char} :
    accepts text string = true ↔ string = text := by
  refine ⟨fun matched => ?_, fun same => same ▸ accepts_self text⟩
  induction text generalizing string with
  | nil => exact accepts_nil_iff.mp matched
  | cons c text ih =>
      have itself : ¬ IsWildcard c := plain c List.mem_cons_self
      obtain ⟨d, rest, rfl, fits, later⟩ :=
        (accepts_cons_iff fun any => itself (.inl any)).mp matched
      have same : c = d := fits.resolve_left fun any => itself (.inr any)
      rw [← same, ih (fun other member => plain other (List.mem_cons_of_mem c member)) later]

/-- Put a letter for a character that stands for others in a pattern. -/
def withoutWildcard (c : Char) : Char :=
  if IsWildcard c then 'x' else c

theorem not_isWildcard_withoutWildcard (c : Char) : ¬ IsWildcard (withoutWildcard c) := by
  unfold withoutWildcard
  split
  · decide
  · assumption

/-- No pattern sees that the wildcards of a string were exchanged for letters. -/
theorem accepts_map_withoutWildcard {pattern string : List Char}
    (matched : accepts pattern string = true) :
    accepts pattern (string.map withoutWildcard) = true := by
  induction pattern generalizing string with
  | nil =>
      rw [accepts_nil_iff] at matched ⊢
      rw [matched, List.map_nil]
  | cons mark pattern ih =>
      by_cases any : mark = '%'
      · subst any
        obtain ⟨skipped, rest, rfl, later⟩ := accepts_percent_iff.mp matched
        exact accepts_percent_iff.mpr ⟨_, _, List.map_append, ih later⟩
      · obtain ⟨c, rest, rfl, fits, later⟩ := (accepts_cons_iff any).mp matched
        refine (accepts_cons_iff any).mpr ⟨_, _, List.map_cons, ?_, ih later⟩
        by_cases one : mark = '_'
        · exact .inl one
        · have same : mark = c := fits.resolve_left one
          have kept : ¬ IsWildcard c := by
            rintro (percent | lowLine)
            · exact any (same.trans percent)
            · exact one (same.trans lowLine)
          exact .inr (by rw [withoutWildcard, if_neg kept, same])

theorem isPlain_of_map_eq {text : List Char} (kept : text.map withoutWildcard = text) :
    IsPlain text := by
  rw [← kept]
  intro c member
  obtain ⟨d, -, rfl⟩ := List.mem_map.mp member
  exact not_isWildcard_withoutWildcard d

end Pattern

end SqlCompiler
