import SqlCompiler.Proofs.Identifier.Delimited
import SqlCompiler.Proofs.Identifier.SameName

/-!
# Quoting a quoted name

Every segment of a name is written as a body between the quotes.  The body of
a segment that has quotes is what stands between them, and the body of any
other segment is the segment with its closing quotes doubled.  A quoted name
is made of the bodies of the name, and so is an unquoted one, where each pair
of closing quotes becomes a single one again.

The quoted name has the bodies of the name it was made from, however the quotes
stand in that name.  So quoting it again changes nothing, and it denotes the
same column.
-/

namespace SqlCompiler

namespace Text

variable {mark c : Char} {rest : List Char}

theorem replaceAll_pair_of_ne (different : c ≠ mark) :
    replaceAll [mark, mark] [mark] (c :: rest) = c :: replaceAll [mark, mark] [mark] rest := by
  rw [replaceAll]
  simp [different.symm]

theorem replaceAll_pair_of_pair :
    replaceAll [mark, mark] [mark] (mark :: mark :: rest) =
      mark :: replaceAll [mark, mark] [mark] rest := by
  rw [replaceAll]
  simp

theorem replaceAll_pair_of_single (single : rest.head? ≠ some mark) :
    replaceAll [mark, mark] [mark] (mark :: rest) =
      mark :: replaceAll [mark, mark] [mark] rest := by
  cases rest with
  | nil => simp [replaceAll]
  | cons c rest =>
      have different : mark ≠ c := by simpa [eq_comm] using single
      rw [replaceAll]
      simp [different]

/-- Taking one mark of each pair undoes the doubling of a mark. -/
theorem replaceAll_pair_replaceAll (mark : Char) (text : List Char) :
    replaceAll [mark, mark] [mark] (replaceAll [mark] [mark, mark] text) = text := by
  rw [replaceAll_singleton]
  induction text with
  | nil => simp
  | cons c rest ih =>
      by_cases same : c = mark
      · simp [same, replaceAll_pair_of_pair, ih]
      · simp [same, replaceAll_pair_of_ne same, ih]

/-- A text between two characters that are no space has nothing to trim. -/
theorem trimBoth_between {first last : Char} (front : isWhiteSpace first = false)
    (back : isWhiteSpace last = false) (inner : List Char) :
    trimBoth (first :: (inner ++ [last])) = first :: (inner ++ [last]) := by
  rw [trimBoth, trimFront_cons_of_not_space front]
  exact trimBack_append_of_not_space back (first :: inner)

end Text

namespace Setting

/-- What is written between the quotes for a trimmed segment. -/
def body (setting : Setting) (segment : List Char) : List Char :=
  if setting.isQuoted segment then setting.insideQuotes segment
  else
    Text.replaceAll setting.closingQuote.toList
      (setting.closingQuote.toList ++ setting.closingQuote.toList) segment

/-- The bodies of the segments of a name. -/
def bodies (setting : Setting) (name : List Char) : List (List Char) :=
  (setting.segments (Text.trimBoth name)).map (fun segment => setting.body (Text.trimBoth segment))

theorem bodies_ne_nil (setting : Setting) (name : List Char) : setting.bodies name ≠ [] := by
  simp [bodies, segments, segmentsFrom_ne_nil]

namespace SingleMarks

variable {setting : Setting} (marks : setting.SingleMarks)

def delimit (body : List Char) : List Char :=
  marks.opening :: (body ++ [marks.closing])

/-- A body with a single closing quote for each pair of them. -/
def halve (body : List Char) : List Char :=
  Text.replaceAll [marks.closing, marks.closing] [marks.closing] body

theorem isQuoted_delimit (body : List Char) : setting.isQuoted (marks.delimit body) = true :=
  (marks.isQuoted_iff _).mpr ⟨body, rfl⟩

theorem insideQuotes_delimit (body : List Char) :
    setting.insideQuotes (marks.delimit body) = body := by
  simp [insideQuotes, delimit, marks.openingQuote, marks.closingQuote]

theorem body_delimit (body : List Char) : setting.body (marks.delimit body) = body := by
  rw [Setting.body, if_pos (marks.isQuoted_delimit body), marks.insideQuotes_delimit]

/-- A segment is quoted as its body between quotes. -/
theorem quoteSegment_eq (segment : List Char) :
    setting.quoteSegment segment = marks.delimit (setting.body segment) := by
  cases quoted : setting.isQuoted segment with
  | true =>
      obtain ⟨inside, rfl⟩ := (marks.isQuoted_iff segment).mp quoted
      rw [quoteSegment, if_pos quoted]
      exact congrArg marks.delimit (marks.body_delimit inside).symm
  | false =>
      simp [quoteSegment, Setting.body, quoted, delimit, marks.openingQuote, marks.closingQuote]

/-- A segment is unquoted as its body with single closing quotes. -/
theorem unquoteSegment_eq (segment : List Char) :
    setting.unquoteSegment segment = marks.halve (setting.body segment) := by
  cases quoted : setting.isQuoted segment with
  | true => simp [unquoteSegment, Setting.body, quoted, halve, marks.closingQuote]
  | false =>
      simp [unquoteSegment, Setting.body, quoted, halve, marks.closingQuote,
        Text.replaceAll_pair_replaceAll]

theorem toList_quote (name : String) :
    (setting.quote name).toList =
      [marks.separator].intercalate ((setting.bodies name.toList).map marks.delimit) := by
  simp [quote, mapSegments, bodies, marks.quoteSegment_eq, marks.nameSeparator, Function.comp_def]

theorem toList_unquote (name : String) :
    (setting.unquote name).toList =
      [marks.separator].intercalate ((setting.bodies name.toList).map marks.halve) := by
  simp [unquote, mapSegments, bodies, marks.unquoteSegment_eq, marks.nameSeparator,
    Function.comp_def]

theorem trimBoth_delimit (body : List Char) :
    Text.trimBoth (marks.delimit body) = marks.delimit body :=
  Text.trimBoth_between marks.opening_not_space marks.closing_not_space body

/-- Delimited bodies that are joined stand between quotes as a whole. -/
theorem exists_intercalate_eq_delimit {bodies : List (List Char)} (nonempty : bodies ≠ []) :
    ∃ body, [marks.separator].intercalate (bodies.map marks.delimit) = marks.delimit body := by
  induction bodies with
  | nil => contradiction
  | cons first later ih =>
      cases later with
      | nil => exact ⟨first, by simp⟩
      | cons second rest =>
          obtain ⟨body, joined⟩ := ih (by simp)
          refine ⟨first ++ marks.closing :: marks.separator :: marks.opening :: body, ?_⟩
          rw [List.map_cons] at joined
          rw [List.map_cons, List.map_cons, List.intercalate_cons_cons, joined]
          simp [delimit]

/-- Delimited bodies that are pieces are found again in the joined text. -/
theorem bodies_intercalate {bodies : List (List Char)}
    (arePieces : marks.Pieces (bodies.map marks.delimit)) (nonempty : bodies ≠ []) :
    setting.bodies ([marks.separator].intercalate (bodies.map marks.delimit)) = bodies := by
  obtain ⟨body, joined⟩ := marks.exists_intercalate_eq_delimit nonempty
  have trimmed : Text.trimBoth ([marks.separator].intercalate (bodies.map marks.delimit)) =
      [marks.separator].intercalate (bodies.map marks.delimit) := by
    rw [joined, marks.trimBoth_delimit]
  rw [Setting.bodies, trimmed, marks.segments_intercalate arePieces, List.map_map]
  simp [Function.comp_def, marks.trimBoth_delimit, marks.body_delimit]

theorem pieces_bodies (name : List Char) :
    marks.Pieces ((setting.bodies name).map marks.delimit) := by
  have quoted := (marks.pieces_segments (Text.trimBoth name)).map marks
    marks.scan_quoteSegment_trimBoth
  simpa [bodies, marks.quoteSegment_eq, Function.comp_def] using quoted

include marks

/-- A quoted name has the bodies of the name it was made from. -/
theorem bodies_quote (name : String) :
    setting.bodies (setting.quote name).toList = setting.bodies name.toList := by
  rw [marks.toList_quote]
  exact marks.bodies_intercalate (marks.pieces_bodies name.toList)
    (setting.bodies_ne_nil name.toList)

theorem quote_eq_iff (first second : String) :
    setting.quote first = setting.quote second ↔
      setting.bodies first.toList = setting.bodies second.toList := by
  constructor
  · intro equal
    rw [← marks.bodies_quote first, ← marks.bodies_quote second, equal]
  · intro equal
    rw [← String.toList_inj, marks.toList_quote, marks.toList_quote, equal]

theorem quote_quote (name : String) :
    setting.quote (setting.quote name) = setting.quote name :=
  (marks.quote_eq_iff _ _).mpr (marks.bodies_quote name)

theorem unquote_quote (name : String) :
    setting.unquote (setting.quote name) = setting.unquote name := by
  rw [← String.toList_inj, marks.toList_unquote, marks.toList_unquote, marks.bodies_quote]

/-- A name and its quoted form have the same form for comparisons. -/
theorem comparedName_quote (name : String) :
    setting.comparedName (setting.quote name) = setting.comparedName name := by
  rw [comparedName, marks.unquote_quote, comparedName]

end SingleMarks

/--
A quoted name is the form of the name that stays as it is: quoting it again
changes nothing, it is unquoted as the name is, and it denotes the same column.
So two names can be quoted before they are compared.
-/
theorem quote_canonical {setting : Setting} (marks : setting.SingleMarks) :
    (∀ name, setting.quote (setting.quote name) = setting.quote name ∧
      setting.unquote (setting.quote name) = setting.unquote name ∧
      setting.sameName name (setting.quote name) = true) ∧
    ∀ first second, setting.sameName first second =
      setting.sameName (setting.quote first) (setting.quote second) := by
  constructor
  · intro name
    refine ⟨marks.quote_quote name, marks.unquote_quote name, ?_⟩
    rw [sameName_iff, marks.comparedName_quote]
  · intro first second
    rw [Bool.eq_iff_iff, sameName_iff, sameName_iff, marks.comparedName_quote,
      marks.comparedName_quote]

/-- A name with a stray closing quote and one that is never closed. -/
theorem quote_canonical_unclosed :
    sqlServer.quote "[a.b] . c]d . [e" = "[a.b].[c]]d].[[e]" ∧
      sqlServer.quote "[a.b].[c]]d].[[e]" = "[a.b].[c]]d].[[e]" ∧
      sqlServer.sameName "[a.b] . c]d . [e" "[a.b].[c]]d].[[e]" = true := by
  have quoted : sqlServer.quote "[a.b] . c]d . [e" = "[a.b].[c]]d].[[e]" := by decide +kernel
  obtain ⟨again, -, same⟩ :=
    (quote_canonical Dialect.sqlServer.marks).1 "[a.b] . c]d . [e"
  change sqlServer.quote (sqlServer.quote _) = sqlServer.quote _ at again
  change sqlServer.sameName _ (sqlServer.quote _) = true at same
  rw [quoted] at again same
  exact ⟨quoted, again, same⟩

end Setting

end SqlCompiler
