import SqlCompiler.Column
import SqlCompiler.Proofs.Identifier.MarkPlaces
import SqlCompiler.Proofs.Text.Keyword

/-!
# When names of one column are one identifier

Names are compared unquoted and written quoted.  So two names of one column can
be different identifiers: `Unit.Price` is a column of `Unit`, and
`[Unit.Price]` is a column with a dot in its name.

Names of one column are the same identifier, up to the case of letters, exactly
when the quotes and separators stand at the same places in their quoted forms.
A column whose unquoted name has neither a separator nor a closing quote is one
identifier under all its names, and any other column is not: it can also be
written with the separator inside quotes, or with a closing quote that is not
doubled.
-/

namespace SqlCompiler

namespace Text

theorem sameIgnoringCase_iff (first second : String) :
    sameIgnoringCase first second = true ↔
      first.toList.map Char.toLower = second.toList.map Char.toLower := by
  rw [sameIgnoringCase, beq_iff_eq, asciiLower, asciiLower, String.ofList_inj]

end Text

namespace Setting

namespace SingleMarks

variable {setting : Setting} (marks : setting.SingleMarks)

/-- The text has neither a separator nor a closing quote. -/
def IsPlain (text : List Char) : Prop :=
  marks.separator ∉ text ∧ marks.closing ∉ text

theorem KeepsMarks.isPlain_map {marks : setting.SingleMarks} {change : Char → Char}
    (keeps : marks.KeepsMarks change) (text : List Char) :
    marks.IsPlain (text.map change) ↔ marks.IsPlain text := by
  simp [IsPlain, keeps.separator_iff, keeps.closing_iff]

theorem eq_of_not_mem_halve {body : List Char} (free : marks.closing ∉ marks.halve body) :
    marks.halve body = body := by
  induction body using Text.pairInduction marks.closing with
  | nil => simp
  | pair rest ih => simp [halve_pair] at free
  | single rest single ih => simp [marks.halve_single single] at free
  | plain c rest different ih =>
      rw [marks.halve_plain different] at free ⊢
      rw [ih fun member => free (List.mem_cons_of_mem _ member)]

/-- A name that is plain when unquoted is quoted as that form between quotes. -/
theorem toList_quote_of_isPlain {name : String}
    (plain : marks.IsPlain (setting.unquote name).toList) :
    (setting.quote name).toList = marks.delimit (setting.unquote name).toList := by
  have nonempty := setting.bodies_ne_nil name.toList
  rw [marks.toList_unquote] at plain ⊢
  rw [marks.toList_quote]
  obtain ⟨noSeparator, noClosing⟩ := plain
  match bodies : setting.bodies name.toList with
  | [] => exact absurd bodies nonempty
  | [body] =>
      have whole := marks.eq_of_not_mem_halve (by simpa [bodies] using noClosing)
      simp [whole]
  | first :: second :: rest => simp [bodies] at noSeparator

/-- A text with every closing quote doubled. -/
def double (text : List Char) : List Char :=
  Text.replaceAll [marks.closing] [marks.closing, marks.closing] text

theorem double_cons_closing (rest : List Char) :
    marks.double (marks.closing :: rest) = marks.closing :: marks.closing :: marks.double rest := by
  simp [double, Text.replaceAll_singleton]

theorem double_cons_plain {c : Char} (different : c ≠ marks.closing) (rest : List Char) :
    marks.double (c :: rest) = c :: marks.double rest := by
  simp [double, Text.replaceAll_singleton, different]

theorem double_append (first second : List Char) :
    marks.double (first ++ second) = marks.double first ++ marks.double second := by
  simp [double, Text.replaceAll_singleton]

theorem separator_not_mem_double {text : List Char} (free : marks.separator ∉ text) :
    marks.separator ∉ marks.double text := by
  rw [double, Text.replaceAll_singleton]
  intro member
  obtain ⟨c, inText, written⟩ := List.mem_flatMap.mp member
  split at written
  next => simp [marks.separator_ne_closing] at written
  next =>
    obtain rfl := List.mem_singleton.mp written
    exact free inText

theorem halve_double_append (text behind : List Char) :
    marks.halve (marks.double text ++ behind) = text ++ marks.halve behind := by
  induction text with
  | nil => simp [double]
  | cons c rest ih =>
      by_cases closes : c = marks.closing
      · rw [closes, double_cons_closing, List.cons_append, List.cons_append, halve_pair, ih,
          List.cons_append]
      · rw [marks.double_cons_plain closes, List.cons_append, marks.halve_plain closes, ih,
          List.cons_append]

/-- In front of doubled closing quotes a single one is read as one. -/
theorem halve_closing_double (text : List Char) :
    marks.halve (marks.closing :: marks.double text) = marks.closing :: text := by
  induction text with
  | nil => rw [double, Text.replaceAll_nil, marks.halve_single (by simp), halve_nil]
  | cons c rest ih =>
      by_cases closes : c = marks.closing
      · rw [closes, double_cons_closing, halve_pair, ih]
      · have single : (marks.double (c :: rest)).head? ≠ some marks.closing := by
          simpa [marks.double_cons_plain closes] using closes
        have whole := marks.halve_double_append (c :: rest) []
        rw [List.append_nil, halve_nil, List.append_nil] at whole
        rw [marks.halve_single single, whole]

theorem exists_name {bodies : List (List Char)}
    (arePieces : marks.Pieces (bodies.map marks.delimit)) (nonempty : bodies ≠ []) :
    ∃ name : String, setting.bodies name.toList = bodies ∧
      (setting.unquote name).toList = [marks.separator].intercalate (bodies.map marks.halve) := by
  refine ⟨.ofList ([marks.separator].intercalate (bodies.map marks.delimit)), ?_⟩
  rw [marks.toList_unquote, String.toList_ofList, marks.bodies_intercalate arePieces nonempty]
  exact ⟨rfl, rfl⟩

/-- Some texts are the segments of a name, with all their closing quotes doubled. -/
theorem exists_name_of_texts {texts : List (List Char)} (nonempty : texts ≠ []) :
    ∃ name : String, setting.bodies name.toList = texts.map marks.double ∧
      (setting.unquote name).toList = [marks.separator].intercalate texts := by
  have delimited : ∀ identifier ∈ (texts.map marks.double).map marks.delimit,
      marks.IsDelimited identifier := by
    intro identifier member
    obtain ⟨body, bodyMember, rfl⟩ := List.mem_map.mp member
    obtain ⟨text, -, rfl⟩ := List.mem_map.mp bodyMember
    exact ⟨marks.double text, Text.doubled_replaceAll _ _, rfl⟩
  have halved (text : List Char) : marks.halve (marks.double text) = text :=
    Text.replaceAll_pair_replaceAll marks.closing text
  obtain ⟨name, bodies, unquoted⟩ :=
    marks.exists_name (marks.pieces_of_isDelimited (by simpa using nonempty) delimited)
      (by simpa using nonempty)
  refine ⟨name, bodies, ?_⟩
  simpa [Function.comp_def, halved] using unquoted

theorem uncut_of_not_mem {text : List Char} (free : marks.separator ∉ text)
    (state : ScanState) : marks.Uncut state text := by
  induction text generalizing state with
  | nil => exact marks.uncut_nil state
  | cons c rest ih =>
      rw [List.mem_cons, not_or] at free
      exact ⟨.inr (Ne.symm free.1), ih free.2 _⟩

/-- A text with a separator or a closing quote is the unquoted form of two different names. -/
theorem exists_names_of_not_isPlain {text : List Char} (notPlain : ¬ marks.IsPlain text) :
    ∃ first second : String, (setting.unquote first).toList = text ∧
      (setting.unquote second).toList = text ∧
      (setting.bodies first.toList).map List.length ≠
        (setting.bodies second.toList).map List.length := by
  obtain ⟨whole, wholeBodies, wholeText⟩ :=
    marks.exists_name_of_texts (List.cons_ne_nil text [])
  refine ⟨whole, ?_⟩
  by_cases cut : marks.separator ∈ text
  · obtain ⟨front, back, rfl⟩ := List.append_of_mem cut
    obtain ⟨parts, partBodies, partsText⟩ :=
      marks.exists_name_of_texts (List.cons_ne_nil front [back])
    exact ⟨parts, by simpa using wholeText, by simpa using partsText,
      by simp [wholeBodies, partBodies]⟩
  · have closes : marks.closing ∈ text := by
      by_contra free
      exact notPlain ⟨cut, free⟩
    obtain ⟨front, back, rfl⟩ := List.append_of_mem closes
    -- The same text, where one of the closing quotes is not doubled.
    let body := marks.double front ++ marks.closing :: marks.double back
    have noCut : marks.separator ∉ marks.delimit body := by
      simp only [List.mem_append, List.mem_cons, not_or] at cut
      simp [body, delimit, marks.separator_not_mem_double, cut, marks.separator_ne_opening]
    have piece : marks.Pieces ([body].map marks.delimit) := .last (marks.uncut_of_not_mem noCut _)
    obtain ⟨stray, strayBodies, strayText⟩ := marks.exists_name piece (List.cons_ne_nil body [])
    refine ⟨stray, by simpa using wholeText, ?_, ?_⟩
    · simpa [body, halve_double_append, halve_closing_double] using strayText
    · simp [wholeBodies, strayBodies, body, marks.double_append, double_cons_closing]

/-- A column has one quoted form up to a change exactly when its unquoted name is plain. -/
theorem KeepsMarks.forall_map_quote_eq_iff {marks : setting.SingleMarks} {change : Char → Char}
    (keeps : marks.KeepsMarks change) (name : String) :
    (∀ other, (setting.unquote name).toList.map change =
          (setting.unquote other).toList.map change →
        (setting.quote name).toList.map change = (setting.quote other).toList.map change) ↔
      marks.IsPlain (setting.unquote name).toList := by
  constructor
  · intro agrees
    by_contra notPlain
    obtain ⟨first, second, firstText, secondText, different⟩ :=
      marks.exists_names_of_not_isPlain notPlain
    have quoted := (agrees first (by rw [firstText])).symm.trans
      (agrees second (by rw [secondText]))
    have bodies := (keeps.map_quote_eq_iff first second).mp quoted
    apply different
    simpa [Function.comp_def] using congrArg (List.map List.length) bodies
  · intro plain other same
    have otherPlain : marks.IsPlain (setting.unquote other).toList := by
      rw [← keeps.isPlain_map, ← same, keeps.isPlain_map]
      exact plain
    rw [marks.toList_quote_of_isPlain plain, marks.toList_quote_of_isPlain otherPlain,
      keeps.delimit_map, keeps.delimit_map, same]

end SingleMarks

/-- Two names are written as the same identifier, up to the case of the letters A to Z. -/
def sameIdentifier (setting : Setting) (first second : String) : Bool :=
  Text.sameIgnoringCase (setting.quote first) (setting.quote second)

end Setting

/-- No mark of a dialect is a letter. -/
theorem Dialect.keepsMarks_toLower (dialect : Dialect) :
    dialect.marks.KeepsMarks Char.toLower := by
  cases dialect <;> constructor <;> exact Text.toLower_eq_iff (by decide)

namespace Setting

/--
Whatever is found under a name is written as the name: a column of a schema, a
field of a list, and a name because of which a field is left out.
-/
structure IsWrittenAsFound (setting : Setting) (name : String) : Prop where
  column {columns : List Column} {column : Column}
    (found : Column.findNamed? columns setting name = some column) :
    setting.sameIdentifier name column.name = true
  listed {fields : List Field} (found : Field.anyNamed fields setting name = true) :
    ∃ field ∈ fields, setting.sameIdentifier name field.name = true
  leftOut {fields : List Field} {names : List String} {field : Field} (requested : field ∈ fields)
    (named : field.name = name) (missing : field ∉ Field.without fields setting names) :
    ∃ other ∈ names, setting.sameIdentifier name other = true

theorem isWrittenAsFound_iff (setting : Setting) (name : String) :
    setting.IsWrittenAsFound name ↔
      ∀ other, setting.sameName name other = true → setting.sameIdentifier name other = true := by
  constructor
  · intro written other same
    have found : Column.findNamed? [{ name := other }] setting name =
        some { name := other } := by
      rw [Column.findNamed?, List.find?_cons_of_pos (by rwa [Column.isNamed, sameName_comm])]
    have column := written.column found
    exact column
  · intro agrees
    refine ⟨?_, ?_, ?_⟩
    · intro columns column found
      have same := List.find?_some found
      exact agrees _ (by rwa [sameName_comm])
    · intro fields found
      obtain ⟨field, member, same⟩ := List.any_eq_true.mp found
      exact ⟨field, member, agrees _ (by rwa [sameName_comm])⟩
    · intro fields names field requested named missing
      subst named
      have excluded : names.any (fun other => setting.sameName field.name other) = true := by
        by_contra kept
        exact missing (List.mem_filter.mpr ⟨requested, by simpa using kept⟩)
      obtain ⟨other, member, same⟩ := List.any_eq_true.mp excluded
      exact ⟨other, member, agrees other same⟩

theorem sameName_iff_map (setting : Setting) (first second : String) :
    setting.sameName first second = true ↔
      (setting.unquote first).toList.map Char.toLower =
        (setting.unquote second).toList.map Char.toLower :=
  Text.sameIgnoringCase_iff _ _

/--
Names are the same identifier exactly when they are names of the same column
and the quotes and separators stand at the same places in their quoted forms.
Under all its names a column is the same identifier, and whatever is found
under the name is written as the name, exactly when the unquoted name has
neither a separator nor a closing quote.
-/
theorem sameIdentifier_iff (dialect : Dialect) :
    (∀ first second, dialect.setting.sameIdentifier first second = true ↔
      dialect.setting.sameName first second = true ∧
        (dialect.setting.quote first).toList.map dialect.marks.blank =
          (dialect.setting.quote second).toList.map dialect.marks.blank) ∧
    (∀ name, (∀ other, dialect.setting.sameName name other = true →
        dialect.setting.sameIdentifier name other = true) ↔
      dialect.marks.IsPlain (dialect.setting.unquote name).toList) ∧
    ∀ name, dialect.setting.IsWrittenAsFound name ↔
      dialect.marks.IsPlain (dialect.setting.unquote name).toList := by
  have keeps := dialect.keepsMarks_toLower
  simp only [isWrittenAsFound_iff, sameIdentifier, Text.sameIgnoringCase_iff, sameName_iff_map]
  exact ⟨keeps.map_quote_eq_iff_map_unquote_eq, keeps.forall_map_quote_eq_iff,
    keeps.forall_map_quote_eq_iff⟩

example : sqlServer.sameIdentifier "dbo.[Person]" " DBO . person" = true := by
  decide +kernel

/-- A column with a dot in its name is found under the name of a column of another table. -/
theorem not_sameIdentifier_dottedColumn :
    ¬ ∀ first second, sqlServer.sameName first second = true →
      sqlServer.sameIdentifier first second = true := by
  intro agrees
  have same : sqlServer.sameName "Unit.Price" "[Unit.Price]" = true := by decide +kernel
  have different : sqlServer.sameIdentifier "Unit.Price" "[Unit.Price]" = false := by
    decide +kernel
  rw [agrees _ _ same] at different
  cases different

end Setting

end SqlCompiler
