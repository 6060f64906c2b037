import SqlCompiler.Proofs.Condition.Leaves
import SqlCompiler.Proofs.Error.InOrder
import SqlCompiler.Proofs.SearchCondition.Pattern

/-!
# What the patterns of text calls match

A condition can ask whether a column contains a text, starts with it or ends
with it.  Such a call becomes a comparison with a pattern, where percent signs
are put around the text and the text itself is kept.  So the pattern matches
the strings that hold, at the place in question, a part which the text matches
when it is read as a pattern.

For a plain text that part is the text, and the pattern is right for every
string.  A percent sign or a low line in the text matches other characters as
well, so the pattern of any other text matches too much.  No pattern would be
right for such a text, since patterns have no escape character.
-/

namespace SqlCompiler

namespace Condition

/-- Where a call looks for a text. -/
inductive Placement where
  | anywhere
  | atStart
  | atEnd
  deriving DecidableEq, Repr

namespace Placement

def function : Placement → Function
  | .anywhere => .contains
  | .atStart => .startsWith
  | .atEnd => .endsWith

def pattern : Placement → String → String
  | .anywhere => containsPattern
  | .atStart => startsWithPattern
  | .atEnd => endsWithPattern

/-- The string has the part at the place. -/
def Has : Placement → (part string : List Char) → Prop
  | .anywhere, part, string => part <:+: string
  | .atStart, part, string => part <+: string
  | .atEnd, part, string => part <:+ string

theorem has_self (placement : Placement) (text : List Char) : placement.Has text text := by
  cases placement with
  | anywhere => exact List.infix_rfl
  | atStart => exact List.prefix_rfl
  | atEnd => exact List.suffix_rfl

theorem sublist_of_has {placement : Placement} {part string : List Char}
    (has : placement.Has part string) : part.Sublist string := by
  cases placement with
  | anywhere => exact List.IsInfix.sublist has
  | atStart => exact List.IsPrefix.sublist has
  | atEnd => exact List.IsSuffix.sublist has

/-- The pattern of a text matches the strings with a part that the text matches. -/
theorem accepts_pattern_iff (placement : Placement) (text : String) (string : List Char) :
    Pattern.accepts (placement.pattern text).toList string = true ↔
      ∃ part, Pattern.accepts text.toList part = true ∧ placement.Has part string := by
  cases placement with
  | anywhere =>
      have shape : (containsPattern text).toList = '%' :: (text.toList ++ ['%']) := by
        simp [containsPattern]
      simp only [pattern, shape, Pattern.accepts_percent_iff, Pattern.accepts_append_iff,
        Pattern.accepts_percent, and_true, Has]
      constructor
      · rintro ⟨front, _, rfl, part, back, rfl, matched⟩
        exact ⟨part, matched, front, back, by simp⟩
      · rintro ⟨part, matched, front, back, rfl⟩
        exact ⟨front, part ++ back, by simp, part, back, rfl, matched⟩
  | atStart =>
      have shape : (startsWithPattern text).toList = text.toList ++ ['%'] := by
        simp [startsWithPattern]
      simp only [pattern, shape, Pattern.accepts_append_iff, Pattern.accepts_percent, and_true, Has]
      constructor
      · rintro ⟨part, back, rfl, matched⟩
        exact ⟨part, matched, back, rfl⟩
      · rintro ⟨part, matched, back, rfl⟩
        exact ⟨part, back, rfl, matched⟩
  | atEnd =>
      have shape : (endsWithPattern text).toList = '%' :: text.toList := by
        simp [endsWithPattern]
      simp only [pattern, shape, Pattern.accepts_percent_iff, Has]
      constructor
      · rintro ⟨front, part, rfl, matched⟩
        exact ⟨part, matched, front, rfl⟩
      · rintro ⟨part, matched, front, rfl⟩
        exact ⟨front, part, rfl, matched⟩

/-- A pattern matches just the strings that have the text at the place. -/
def IsRight (placement : Placement) (text pattern : String) : Prop :=
  ∀ string : String, Pattern.accepts pattern.toList string.toList = true ↔
    placement.Has text.toList string.toList

/-- Only for a plain text there can be a right pattern. -/
theorem isPlain_of_isRight {placement : Placement} {text pattern : String}
    (right : placement.IsRight text pattern) : Pattern.IsPlain text.toList := by
  have itself : Pattern.accepts pattern.toList text.toList = true :=
    (right text).mpr (placement.has_self text.toList)
  let other := String.ofList (text.toList.map Pattern.withoutWildcard)
  have exchanged : Pattern.accepts pattern.toList other.toList = true := by
    simpa [other] using Pattern.accepts_map_withoutWildcard itself
  have found := sublist_of_has ((right other).mp exchanged)
  apply Pattern.isPlain_of_map_eq
  simpa [other] using (found.eq_of_length (by simp [other])).symm

theorem isRight_pattern (placement : Placement) {text : String}
    (plain : Pattern.IsPlain text.toList) : placement.IsRight text (placement.pattern text) := by
  intro string
  rw [accepts_pattern_iff]
  simp only [Pattern.accepts_iff_of_isPlain plain, exists_eq_left]

end Placement

/-- A call that looks for a text in a column. -/
def textCall (function name text : String) : Leaf :=
  .call function (.column name) [.constant (.text text)]

/-- The comparator of a call that looks for a text in a column. -/
def Placement.comparator (placement : Placement) (name text : String) : Comparator where
  field := { name }
  comparison := .like
  value := .text (placement.pattern text)
  kind := .plain

theorem like_eq_ok {name : String} (named : Text.isBlank name = false) (pattern : Value) :
    Comparator.like name pattern =
      .ok { field := { name }, comparison := .like, value := pattern, kind := .plain } := by
  have field : Field.ofName name = .ok { name } := (Field.ofName_eq_ok_iff _ _).mpr ⟨named, rfl⟩
  rw [Comparator.like, Comparator.make, Comparator.ofKind, field]
  rfl

theorem translate_textCall {placement : Placement} {function name : String}
    (spelled : Text.lookup functionSpellings (Text.asciiLower function) = some placement.function)
    (named : Text.isBlank name = false) (text : String) :
    (textCall function name text).translate = .ok (placement.comparator name text) := by
  rw [textCall, Leaf.translate, callComparator.eq_def, spelled]
  cases placement with
  | anywhere => exact like_eq_ok named (.text (containsPattern text))
  | atStart => exact like_eq_ok named (.text (startsWithPattern text))
  | atEnd => exact like_eq_ok named (.text (endsWithPattern text))

/-- The leaves of a translated condition and their comparators stand at the same places. -/
theorem comparators_getElem?_of_leaves {condition : Condition} {filter : Filter} {place : Nat}
    {leaf : Leaf} {comparator : Comparator} (translated : condition.toFilter = .ok filter)
    (found : condition.leaves[place]? = some leaf) (made : leaf.translate = .ok comparator) :
    filter.comparators[place]? = some comparator := by
  have all : condition.leaves.mapM Leaf.translate = .ok filter.comparators := by
    rw [← map_comparators_toFilter, translated]
    rfl
  obtain ⟨lengths, places⟩ := List.forall₂_iff_get.mp (mapM_eq_ok_iff.mp all)
  obtain ⟨inside, rfl⟩ := List.getElem?_eq_some_iff.mp found
  have there := places place inside (lengths ▸ inside)
  exact List.getElem?_eq_some_iff.mpr ⟨lengths ▸ inside, Except.ok.inj (there.symm.trans made)⟩

/--
A text call becomes one comparison with a pattern, on its own and in any
condition around it.  The pattern matches the strings with a part that the
text matches as a pattern.  It is right if and only if the text is plain, and
for any other text no pattern is.
-/
theorem textCall_pattern {placement : Placement} {function name : String}
    (spelled : Text.lookup functionSpellings (Text.asciiLower function) = some placement.function)
    (named : Text.isBlank name = false) (text : String) :
    (textCall function name text).condition.toFilter =
        .ok (.all [placement.comparator name text]) ∧
      (∀ (condition : Condition) (filter : Filter) (place : Nat),
        condition.toFilter = .ok filter →
          condition.leaves[place]? = some (textCall function name text) →
            filter.comparators[place]? = some (placement.comparator name text)) ∧
      (placement.comparator name text).bindings = [("", .text (placement.pattern text))] ∧
      (∀ string : String,
        Pattern.accepts (placement.pattern text).toList string.toList = true ↔
          ∃ part, Pattern.accepts text.toList part = true ∧ placement.Has part string.toList) ∧
      (placement.IsRight text (placement.pattern text) ↔ Pattern.IsPlain text.toList) ∧
      ((∃ pattern, placement.IsRight text pattern) ↔ Pattern.IsPlain text.toList) := by
  have made := translate_textCall spelled named text
  refine ⟨?_, ?_, rfl, fun string => placement.accepts_pattern_iff text string.toList, ?_, ?_⟩
  · rw [toFilter_leaf, made]
    rfl
  · intro condition filter place translated found
    exact comparators_getElem?_of_leaves translated found made
  · exact ⟨Placement.isPlain_of_isRight, placement.isRight_pattern⟩
  · exact ⟨fun ⟨_, right⟩ => Placement.isPlain_of_isRight right,
      fun plain => ⟨_, placement.isRight_pattern plain⟩⟩

/-- A call in a negation and behind another leaf, with capital letters in its function. -/
def activeElsewhere : Condition :=
  .and (.column "IsActive") (.not (textCall "StartsWith" "City" "St. ").condition)

theorem textCall_pattern_activeElsewhere :
    Text.lookup functionSpellings (Text.asciiLower "StartsWith") =
        some Placement.atStart.function ∧
      Text.isBlank "City" = false ∧
      (∃ filter, activeElsewhere.toFilter = .ok filter ∧
        filter.comparators[1]? = some (Placement.atStart.comparator "City" "St. ")) ∧
      (Placement.atStart.comparator "City" "St. ").bindings = [("", .text "St. %")] ∧
      Placement.atStart.IsRight "St. " "St. %" := by
  have spelled : Text.lookup functionSpellings (Text.asciiLower "StartsWith") =
      some Placement.atStart.function := by
    decide +kernel
  have named : Text.isBlank "City" = false := by
    decide +kernel
  obtain ⟨-, inside, bindings, -, right, -⟩ := textCall_pattern spelled named "St. "
  refine ⟨spelled, named, ⟨_, rfl, inside activeElsewhere _ 1 rfl rfl⟩, bindings, right.mpr ?_⟩
  simp [Pattern.IsPlain, Pattern.IsWildcard]

/-- A percent sign in the text stands for any sequence, so the pattern finds strings without it. -/
theorem not_isRight_containsPattern_percentSign :
    (contains "Discount" "50%").toFilter =
        .ok (.all [Placement.anywhere.comparator "Discount" "50%"]) ∧
      (Placement.anywhere.comparator "Discount" "50%").bindings = [("", .text "%50%%")] ∧
      Pattern.accepts "%50%%".toList "507".toList = true ∧
      ¬ Placement.anywhere.Has "50%".toList "507".toList ∧
      ¬ Placement.anywhere.IsRight "50%" "%50%%" := by
  have matched : Pattern.accepts "%50%%".toList "507".toList = true := by
    decide
  have absent : ¬ Placement.anywhere.Has "50%".toList "507".toList := by
    unfold Placement.Has
    decide
  exact ⟨rfl, rfl, matched, absent, fun right => absent ((right "507").mp matched)⟩

end Condition

end SqlCompiler
