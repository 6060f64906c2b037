import SqlCompiler.Dialect
import SqlCompiler.Identifier
import SqlCompiler.Proofs.Text.Trimming

/-!
# The segments of a name, character by character

When the quotes and the separator are single characters, a name is cut into
segments by an automaton with three states.  It stands outside quotes, inside
quotes, or directly behind a closing quote, which another closing quote turns
into a doubled one.  A separator cuts the name in any state but the inner one.

Pieces are texts that the automaton passes without cutting them, where only
the last one may end inside quotes.  Cutting a name makes pieces, and pieces
joined by separators are cut at the same places again.
-/

namespace SqlCompiler

namespace Setting

/--
The quotes and the separator of a setting are single characters.

None of them is white space, and the separator is none of the quotes; the two
quotes may be the same character.
-/
structure SingleMarks (setting : Setting) where
  opening : Char
  closing : Char
  separator : Char
  openingQuote : setting.openingQuote.toList = [opening]
  closingQuote : setting.closingQuote.toList = [closing]
  nameSeparator : setting.nameSeparator.toList = [separator]
  separator_ne_opening : separator ≠ opening
  separator_ne_closing : separator ≠ closing
  opening_not_space : Text.isWhiteSpace opening = false
  closing_not_space : Text.isWhiteSpace closing = false
  separator_not_space : Text.isWhiteSpace separator = false

/-- Where a scan of a name stands. -/
inductive ScanState where
  | outside
  | inside
  | closed
  deriving DecidableEq

namespace SingleMarks

variable {setting : Setting} (marks : setting.SingleMarks)

def next : ScanState → Char → ScanState
  | .outside, c => if c = marks.opening then .inside else .outside
  | .inside, c => if c = marks.closing then .closed else .inside
  | .closed, c => if c = marks.closing ∨ c = marks.opening then .inside else .outside

def run (state : ScanState) (text : List Char) : ScanState :=
  text.foldl marks.next state

/-- The scan meets no separator outside quotes. -/
def Uncut : ScanState → List Char → Prop
  | _, [] => True
  | state, c :: rest =>
      (state = .inside ∨ c ≠ marks.separator) ∧ Uncut (marks.next state c) rest

/-- Cut the rest of a name into segments, where `segment` is what was read of the first. -/
def split : ScanState → List Char → List Char → List (List Char)
  | _, segment, [] => [segment]
  | state, segment, c :: rest =>
      if state ≠ .inside ∧ c = marks.separator then segment :: split .outside [] rest
      else split (marks.next state c) (segment ++ [c]) rest

/-- Texts that are not cut, of which only the last may end inside quotes. -/
inductive Pieces : List (List Char) → Prop where
  | last {piece : List Char} (uncut : marks.Uncut .outside piece) : Pieces [piece]
  | cons {piece : List Char} {pieces : List (List Char)} (uncut : marks.Uncut .outside piece)
      (notInside : marks.run .outside piece ≠ .inside) (later : Pieces pieces) :
      Pieces (piece :: pieces)

@[simp]
theorem run_nil (state : ScanState) : marks.run state [] = state :=
  rfl

@[simp]
theorem run_cons (state : ScanState) (c : Char) (text : List Char) :
    marks.run state (c :: text) = marks.run (marks.next state c) text :=
  rfl

theorem run_append (state : ScanState) (first second : List Char) :
    marks.run state (first ++ second) = marks.run (marks.run state first) second := by
  simp [run]

theorem uncut_nil (state : ScanState) : marks.Uncut state [] := by
  simp [Uncut]

theorem uncut_append (state : ScanState) (first second : List Char) :
    marks.Uncut state (first ++ second) ↔
      marks.Uncut state first ∧ marks.Uncut (marks.run state first) second := by
  induction first generalizing state with
  | nil => simp [Uncut]
  | cons c rest ih => simp [Uncut, ih, and_assoc]

/-- Behind a closing quote a text goes on as outside, unless it starts with a closing quote. -/
theorem split_closed (segment : List Char) {text : List Char}
    (notDoubled : text.head? ≠ some marks.closing) :
    marks.split .closed segment text = marks.split .outside segment text := by
  cases text with
  | nil => rfl
  | cons c rest =>
      have different : c ≠ marks.closing := by simpa using notDoubled
      simp [split, next, different]

/-- The segments of a name are those that the automaton makes. -/
theorem segmentsFrom_eq_split (quoted : Bool) (segment text : List Char) :
    setting.segmentsFrom quoted segment text =
      marks.split (if quoted then .inside else .outside) segment text := by
  fun_induction setting.segmentsFrom quoted segment text with
  | case1 quoted segment => simp [split]
  | case2 quoted segment c rest opening found ih =>
      obtain ⟨rfl, -, matched⟩ := found
      simp only [opening, marks.openingQuote] at ih matched ⊢
      obtain rfl : marks.opening = c := by simpa using matched
      simpa [split, next, marks.separator_ne_opening.symm] using ih
  | case3 quoted segment c rest opening closing notOpening found doubled ih =>
      obtain ⟨rfl, -, matched⟩ := found
      simp only [closing, marks.closingQuote] at ih matched doubled ⊢
      obtain rfl : marks.closing = c := by simpa using matched
      cases rest with
      | nil => simp at doubled
      | cons d rest =>
          obtain rfl : marks.closing = d := by simpa using doubled
          simpa [split, next, marks.separator_ne_closing.symm] using ih
  | case4 quoted segment c rest opening closing notOpening found single ih =>
      obtain ⟨rfl, -, matched⟩ := found
      simp only [closing, marks.closingQuote] at ih matched single ⊢
      obtain rfl : marks.closing = c := by simpa using matched
      have notDoubled : rest.head? ≠ some marks.closing := by
        cases rest with
        | nil => simp
        | cons d rest => simpa [ne_comm] using single
      simpa [split, next, marks.split_closed _ notDoubled] using ih
  | case5 quoted segment c rest opening closing separator notOpening notClosing found ih =>
      obtain ⟨rfl, -, matched⟩ := found
      simp only [separator, marks.nameSeparator] at ih matched ⊢
      obtain rfl : marks.separator = c := by simpa using matched
      simpa [split] using ih
  | case6 quoted segment c rest opening closing separator notOpening notClosing notSeparator ih =>
      simp only [opening, marks.openingQuote] at notOpening
      simp only [closing, marks.closingQuote] at notClosing
      simp only [separator, marks.nameSeparator] at notSeparator
      cases quoted with
      | false =>
          have plain : c ≠ marks.opening := by simpa [ne_comm] using notOpening
          have noCut : c ≠ marks.separator := by simpa [ne_comm] using notSeparator
          simpa [split, next, plain, noCut] using ih
      | true =>
          have plain : c ≠ marks.closing := by simpa [ne_comm] using notClosing
          simpa [split, next, plain] using ih

theorem split_append_of_uncut {state : ScanState} (segment : List Char) {text : List Char}
    (uncut : marks.Uncut state text) (rest : List Char) :
    marks.split state segment (text ++ rest) =
      marks.split (marks.run state text) (segment ++ text) rest := by
  induction text generalizing state segment with
  | nil => simp
  | cons c text ih =>
      obtain ⟨stays, later⟩ := uncut
      have noCut : ¬ (state ≠ .inside ∧ c = marks.separator) := by
        rcases stays with inside | different
        · simp [inside]
        · simp [different]
      rw [List.cons_append, split, if_neg noCut, ih (segment ++ [c]) later]
      simp

theorem pieces_split {state : ScanState} {segment : List Char}
    (uncut : marks.Uncut .outside segment) (reached : marks.run .outside segment = state)
    (text : List Char) : marks.Pieces (marks.split state segment text) := by
  induction text generalizing state segment with
  | nil => exact .last uncut
  | cons c text ih =>
      unfold split
      split
      next cut =>
        refine .cons uncut (reached ▸ cut.1) (ih (marks.uncut_nil _) rfl)
      next stays =>
        refine ih ?_ ?_
        · rw [uncut_append, reached]
          refine ⟨uncut, ?_, marks.uncut_nil _⟩
          by_cases inside : state = .inside
          · exact .inl inside
          · exact .inr fun cut => stays ⟨inside, cut⟩
        · simp [run_append, reached]

theorem split_intercalate {pieces : List (List Char)} (arePieces : marks.Pieces pieces) :
    marks.split .outside [] ([marks.separator].intercalate pieces) = pieces := by
  induction arePieces with
  | @last piece uncut =>
      have whole := marks.split_append_of_uncut [] uncut []
      simpa [split] using whole
  | @cons piece pieces uncut notInside later ih =>
      cases pieces with
      | nil => nomatch later
      | cons other pieces =>
          rw [List.intercalate_cons_cons, List.append_assoc,
            marks.split_append_of_uncut [] uncut]
          simp [split, notInside, ih]

theorem pieces_segments (name : List Char) : marks.Pieces (setting.segments name) := by
  rw [segments, marks.segmentsFrom_eq_split]
  exact marks.pieces_split (marks.uncut_nil _) rfl name

/-- Pieces joined by separators have the pieces as segments. -/
theorem segments_intercalate {pieces : List (List Char)} (arePieces : marks.Pieces pieces) :
    setting.segments ([marks.separator].intercalate pieces) = pieces := by
  rw [segments, marks.segmentsFrom_eq_split]
  exact marks.split_intercalate arePieces

theorem run_space_eq_inside_iff {text : List Char}
    (space : ∀ c ∈ text, Text.isWhiteSpace c = true) (state : ScanState) :
    marks.run state text = .inside ↔ state = .inside := by
  induction text generalizing state with
  | nil => rfl
  | cons c rest ih =>
      have notOpening : c ≠ marks.opening := by
        rintro rfl
        simpa [marks.opening_not_space] using space _ List.mem_cons_self
      have notClosing : c ≠ marks.closing := by
        rintro rfl
        simpa [marks.closing_not_space] using space _ List.mem_cons_self
      rw [run_cons, ih fun other member => space other (List.mem_cons_of_mem _ member)]
      cases state <;> simp [next, notOpening, notClosing]

theorem run_outside_space {text : List Char}
    (space : ∀ c ∈ text, Text.isWhiteSpace c = true) :
    marks.run .outside text = .outside := by
  induction text with
  | nil => rfl
  | cons c rest ih =>
      have notOpening : c ≠ marks.opening := by
        rintro rfl
        simpa [marks.opening_not_space] using space _ List.mem_cons_self
      rw [run_cons, next, if_neg notOpening]
      exact ih fun other member => space other (List.mem_cons_of_mem _ member)

/-- A trimmed piece is not cut, and ends inside quotes exactly when the piece does. -/
theorem scan_trimBoth {piece : List Char} (uncut : marks.Uncut .outside piece) :
    marks.Uncut .outside (Text.trimBoth piece) ∧
      (marks.run .outside (Text.trimBoth piece) = .inside ↔
        marks.run .outside piece = .inside) := by
  obtain ⟨front, back, whole, frontSpace, backSpace⟩ := Text.exists_eq_append_trimBoth piece
  have outside := marks.run_outside_space frontSpace
  generalize Text.trimBoth piece = core at whole ⊢
  subst whole
  rw [uncut_append, uncut_append, outside] at uncut
  rw [run_append, run_append, outside, marks.run_space_eq_inside_iff backSpace]
  exact ⟨uncut.1.2, Iff.rfl⟩

theorem Pieces.map {change : List Char → List Char} {pieces : List (List Char)}
    (arePieces : marks.Pieces pieces)
    (keeps : ∀ piece, marks.Uncut .outside piece → marks.Uncut .outside (change piece) ∧
      (marks.run .outside piece ≠ .inside → marks.run .outside (change piece) ≠ .inside)) :
    marks.Pieces (pieces.map change) := by
  induction arePieces with
  | last uncut => exact .last (keeps _ uncut).1
  | cons uncut notInside later ih =>
      exact .cons (keeps _ uncut).1 ((keeps _ uncut).2 notInside) ih

end SingleMarks

end Setting

end SqlCompiler
