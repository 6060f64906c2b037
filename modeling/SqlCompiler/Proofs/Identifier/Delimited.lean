import SqlCompiler.Proofs.Identifier.Segments

/-!
# When a quoted name is made of delimited identifiers

A delimited identifier is an opening quote, a body in which every closing
quote is doubled, and a closing quote.  A quoted name is delimited identifiers
joined by separators, unless a segment of the name starts and ends like a
quoted one and has a single closing quote in between.  Such a segment is taken
as quoted and written as it is, so its parts reach the statement outside any
identifier.

The condition is exact: cutting the quoted name gives back what was written
for the segments, so no other way to read the text can repair it.
-/

namespace SqlCompiler

namespace Text

/-- The mark occurs in pairs only. -/
inductive Doubled (mark : Char) : List Char → Prop where
  | nil : Doubled mark []
  | plain {c : Char} {rest : List Char} (different : c ≠ mark) (later : Doubled mark rest) :
      Doubled mark (c :: rest)
  | pair {rest : List Char} (later : Doubled mark rest) : Doubled mark (mark :: mark :: rest)

theorem doubled_replaceAll (mark : Char) (text : List Char) :
    Doubled mark (replaceAll [mark] [mark, mark] text) := by
  rw [replaceAll_singleton]
  induction text with
  | nil => exact .nil
  | cons c rest ih =>
      by_cases same : c = mark
      · simpa [same] using Doubled.pair ih
      · simpa [same] using Doubled.plain same ih

end Text

namespace Setting

namespace SingleMarks

variable {setting : Setting} (marks : setting.SingleMarks)

/-- An opening quote, a body with doubled closing quotes and a closing quote. -/
def IsDelimited (text : List Char) : Prop :=
  ∃ body, Text.Doubled marks.closing body ∧ text = marks.opening :: (body ++ [marks.closing])

def IsDelimitedName (text : List Char) : Prop :=
  ∃ identifiers, identifiers ≠ [] ∧ (∀ identifier ∈ identifiers, marks.IsDelimited identifier) ∧
    text = [marks.separator].intercalate identifiers

/-- A segment has both quotes exactly when it is a body between them. -/
theorem isQuoted_iff (segment : List Char) :
    setting.isQuoted segment = true ↔
      ∃ body, segment = marks.opening :: (body ++ [marks.closing]) := by
  simp only [isQuoted, marks.openingQuote, marks.closingQuote, Bool.and_eq_true,
    decide_eq_true_eq, List.isPrefixOf_iff_prefix, List.isSuffixOf_iff_suffix]
  constructor
  · rintro ⟨⟨room, back, starts⟩, front, ends⟩
    subst ends
    cases front with
    | nil => simp at room
    | cons c body =>
        simp only [List.cons_append, List.nil_append, List.cons.injEq] at starts
        exact ⟨body, by rw [starts.1, List.cons_append]⟩
  · rintro ⟨body, rfl⟩
    exact ⟨⟨by simp, _, rfl⟩, marks.opening :: body, rfl⟩

theorem isDelimited_quoteSegment {segment : List Char} (plain : setting.isQuoted segment = false) :
    marks.IsDelimited (setting.quoteSegment segment) := by
  refine ⟨Text.replaceAll [marks.closing] [marks.closing, marks.closing] segment,
    Text.doubled_replaceAll _ _, ?_⟩
  simp [quoteSegment, plain, marks.openingQuote, marks.closingQuote]

theorem scan_doubled {body : List Char} (doubled : Text.Doubled marks.closing body) :
    marks.Uncut .inside body ∧ marks.run .inside body = .inside := by
  induction doubled with
  | nil => exact ⟨marks.uncut_nil _, rfl⟩
  | @plain c rest different later ih => simpa [Uncut, next, different] using ih
  | pair later ih => simpa [Uncut, next, marks.separator_ne_closing.symm] using ih

theorem scan_isDelimited {text : List Char} (delimited : marks.IsDelimited text) :
    marks.Uncut .outside text ∧ marks.run .outside text = .closed := by
  obtain ⟨body, doubled, rfl⟩ := delimited
  obtain ⟨uncut, inside⟩ := marks.scan_doubled doubled
  constructor
  · simp [Uncut, next, marks.separator_ne_opening.symm, uncut_append, uncut, inside]
  · simp [next, run_append, inside]

theorem pieces_of_isDelimited {identifiers : List (List Char)} (nonempty : identifiers ≠ [])
    (delimited : ∀ identifier ∈ identifiers, marks.IsDelimited identifier) :
    marks.Pieces identifiers := by
  induction identifiers with
  | nil => contradiction
  | cons identifier identifiers ih =>
      obtain ⟨uncut, closed⟩ := marks.scan_isDelimited (delimited identifier List.mem_cons_self)
      cases identifiers with
      | nil => exact .last uncut
      | cons other others =>
          exact .cons uncut (by simp [closed])
            (ih (by simp) fun later member => delimited later (List.mem_cons_of_mem _ member))

/-- Quoting a trimmed segment keeps it a piece. -/
theorem scan_quoteSegment_trimBoth (piece : List Char) (uncut : marks.Uncut .outside piece) :
    marks.Uncut .outside (setting.quoteSegment (Text.trimBoth piece)) ∧
      (marks.run .outside piece ≠ .inside →
        marks.run .outside (setting.quoteSegment (Text.trimBoth piece)) ≠ .inside) := by
  cases quoted : setting.isQuoted (Text.trimBoth piece) with
  | true =>
      obtain ⟨trimmed, inside⟩ := marks.scan_trimBoth uncut
      rw [quoteSegment, if_pos quoted]
      exact ⟨trimmed, mt inside.mp⟩
  | false =>
      obtain ⟨kept, closed⟩ := marks.scan_isDelimited (marks.isDelimited_quoteSegment quoted)
      exact ⟨kept, fun _ => by simp [closed]⟩

def quotedSegments (setting : Setting) (name : List Char) : List (List Char) :=
  (setting.segments (Text.trimBoth name)).map
    (fun segment => setting.quoteSegment (Text.trimBoth segment))

/-- The segments of a quoted name are what was written for the segments of the name. -/
theorem segments_quote (name : List Char) :
    setting.segments ([marks.separator].intercalate (quotedSegments setting name)) =
      quotedSegments setting name := by
  apply marks.segments_intercalate
  exact (marks.pieces_segments (Text.trimBoth name)).map marks marks.scan_quoteSegment_trimBoth

theorem isDelimitedName_quote_iff (name : String) :
    marks.IsDelimitedName (setting.quote name).toList ↔
      ∀ segment ∈ setting.segments (Text.trimBoth name.toList), ∀ body,
        Text.trimBoth segment = marks.opening :: (body ++ [marks.closing]) →
          Text.Doubled marks.closing body := by
  have written : (setting.quote name).toList =
      [marks.separator].intercalate (quotedSegments setting name.toList) := by
    simp [quote, mapSegments, quotedSegments, marks.nameSeparator]
  rw [written]
  constructor
  · rintro ⟨identifiers, nonempty, delimited, joined⟩ segment member body trimmed
    have same : quotedSegments setting name.toList = identifiers := by
      rw [← marks.segments_quote, joined]
      exact marks.segments_intercalate (marks.pieces_of_isDelimited nonempty delimited)
    have quoted : setting.isQuoted (Text.trimBoth segment) = true :=
      (marks.isQuoted_iff _).mpr ⟨body, trimmed⟩
    have kept : Text.trimBoth segment ∈ identifiers := by
      rw [← same]
      exact List.mem_map.mpr ⟨segment, member, by simp [quoteSegment, quoted]⟩
    obtain ⟨other, doubled, equal⟩ := delimited _ kept
    rw [trimmed] at equal
    obtain rfl : body = other := by simpa using equal
    exact doubled
  · intro doubled
    refine ⟨quotedSegments setting name.toList, ?_, ?_, rfl⟩
    · simp [quotedSegments, segments, segmentsFrom_ne_nil]
    · intro identifier member
      obtain ⟨segment, segmentMember, rfl⟩ := List.mem_map.mp member
      cases quoted : setting.isQuoted (Text.trimBoth segment) with
      | true =>
          obtain ⟨body, trimmed⟩ := (marks.isQuoted_iff _).mp quoted
          rw [quoteSegment, if_pos quoted]
          exact ⟨body, doubled segment segmentMember body trimmed, trimmed⟩
      | false => exact marks.isDelimited_quoteSegment quoted

end SingleMarks

end Setting

namespace Dialect

def marks (dialect : Dialect) : dialect.setting.SingleMarks :=
  match dialect with
  | .sqlServer | .sqlite => ⟨'[', ']', '.', rfl, rfl, rfl, by decide, by decide, rfl, rfl, rfl⟩
  | .postgreSql => ⟨'"', '"', '.', rfl, rfl, rfl, by decide, by decide, rfl, rfl, rfl⟩
  | .mySql => ⟨'\x60', '\x60', '.', rfl, rfl, rfl, by decide, by decide, rfl, rfl, rfl⟩

end Dialect

namespace Setting

/--
In every dialect a quoted name is made of delimited identifiers exactly when
every segment that has both quotes has closing quotes in pairs only between
them.
-/
theorem isDelimitedName_quote_dialect_iff (dialect : Dialect) (name : String) :
    dialect.marks.IsDelimitedName (dialect.setting.quote name).toList ↔
      ∀ segment ∈ dialect.setting.segments (Text.trimBoth name.toList), ∀ body,
        Text.trimBoth segment = dialect.marks.opening :: (body ++ [dialect.marks.closing]) →
          Text.Doubled dialect.marks.closing body :=
  dialect.marks.isDelimitedName_quote_iff name

/-- Two quoted names side by side are written as they are, with what stands between them. -/
theorem not_isDelimitedName_quote_side_by_side :
    ¬ Dialect.sqlServer.marks.IsDelimitedName
        (Dialect.sqlServer.setting.quote "[a]; DROP TABLE [b]").toList := by
  rw [SingleMarks.isDelimitedName_quote_iff]
  intro doubled
  have segments : Dialect.sqlServer.setting.segments
      (Text.trimBoth "[a]; DROP TABLE [b]".toList) = ["[a]; DROP TABLE [b]".toList] := by
    decide +kernel
  have body : Text.Doubled ']' ('a' :: ']' :: ';' :: " DROP TABLE [b".toList) :=
    doubled "[a]; DROP TABLE [b]".toList (by rw [segments]; exact List.mem_cons_self) _ (by decide)
  cases body with
  | plain _ later =>
      cases later with
      | plain different _ => exact different rfl

end Setting

end SqlCompiler
