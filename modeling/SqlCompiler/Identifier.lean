import SqlCompiler.Setting
import SqlCompiler.Text.Alphanumeric
import SqlCompiler.Text.Keyword
import SqlCompiler.Text.Replace

/-!
# Identifiers and parameter names

A name may be dotted, and each of its segments may already be quoted.  The
name is cut at the separators outside quotes, and every segment is quoted or
unquoted by itself: a segment that starts with the opening quote and ends with
the closing one is taken as quoted, any other is wrapped with its closing
quotes doubled.  A parameter is named after the unquoted column name, with a
low line for every character that is neither a letter nor a number, and rows
behind the first add their number.
-/

namespace SqlCompiler

namespace Setting

/--
Cut the rest of a name into segments.

`quoted` says whether the scan stands inside quotes and `segment` holds what
was read of the current segment.  A doubled closing quote inside quotes does
not end them, and a separator counts outside quotes only.
-/
def segmentsFrom (setting : Setting) (quoted : Bool) (segment : List Char) :
    List Char → List (List Char)
  | [] => [segment]
  | c :: rest =>
      let opening := setting.openingQuote.toList
      let closing := setting.closingQuote.toList
      let separator := setting.nameSeparator.toList
      if quoted = false ∧ opening ≠ [] ∧ opening.isPrefixOf (c :: rest) then
        setting.segmentsFrom true (segment ++ opening) ((c :: rest).drop opening.length)
      else if quoted = true ∧ closing ≠ [] ∧ closing.isPrefixOf (c :: rest) then
        if closing.isPrefixOf ((c :: rest).drop closing.length) then
          setting.segmentsFrom true (segment ++ (closing ++ closing))
            ((c :: rest).drop (closing ++ closing).length)
        else
          setting.segmentsFrom false (segment ++ closing) ((c :: rest).drop closing.length)
      else if quoted = false ∧ separator ≠ [] ∧ separator.isPrefixOf (c :: rest) then
        segment :: setting.segmentsFrom false [] ((c :: rest).drop separator.length)
      else
        setting.segmentsFrom quoted (segment ++ [c]) rest
termination_by name => name.length
decreasing_by
  all_goals
    try simp only [List.length_drop, List.length_append, List.length_cons]
    grind [List.length_pos_iff]

def segments (setting : Setting) (name : List Char) : List (List Char) :=
  setting.segmentsFrom false [] name

/-- The segment has room for both quotes, starts with the opening and ends with the closing one. -/
def isQuoted (setting : Setting) (segment : List Char) : Bool :=
  setting.openingQuote.toList.length + setting.closingQuote.toList.length ≤ segment.length &&
    setting.openingQuote.toList.isPrefixOf segment &&
    setting.closingQuote.toList.isSuffixOf segment

/-- Quote a trimmed segment unless it is quoted already. -/
def quoteSegment (setting : Setting) (segment : List Char) : List Char :=
  let closing := setting.closingQuote.toList
  if setting.isQuoted segment then segment
  else
    setting.openingQuote.toList ++
      Text.replaceAll closing (closing ++ closing) segment ++ closing

def insideQuotes (setting : Setting) (segment : List Char) : List Char :=
  (segment.drop setting.openingQuote.toList.length).take
    (segment.length - setting.openingQuote.toList.length - setting.closingQuote.toList.length)

/-- Take the quotes off a trimmed segment if it has any. -/
def unquoteSegment (setting : Setting) (segment : List Char) : List Char :=
  let closing := setting.closingQuote.toList
  if setting.isQuoted segment then
    Text.replaceAll (closing ++ closing) closing (setting.insideQuotes segment)
  else segment

def mapSegments (setting : Setting) (change : List Char → List Char) (name : List Char) :
    List Char :=
  setting.nameSeparator.toList.intercalate
    ((setting.segments (Text.trimBoth name)).map (fun segment => change (Text.trimBoth segment)))

def quote (setting : Setting) (name : String) : String :=
  .ofList (setting.mapSegments setting.quoteSegment name.toList)

def unquote (setting : Setting) (name : String) : String :=
  .ofList (setting.mapSegments setting.unquoteSegment name.toList)

/-- Two names denote the same column: unquoted they agree up to the case of A to Z. -/
def sameName (setting : Setting) (first second : String) : Bool :=
  Text.sameIgnoringCase (setting.unquote first) (setting.unquote second)

def parameterCharacter (c : Char) : Char :=
  if Text.isAlphanumeric c ∨ c = '_' then c else '_'

/-- The name of the parameter of a column, without mark and row number. -/
def parameterName (setting : Setting) (name : String) : String :=
  .ofList ((setting.unquote name).toList.map parameterCharacter)

end Setting

def withRow (name : String) (row : Nat) : String :=
  if row = 0 then name else name ++ "_" ++ toString row

namespace Setting

def parameter (setting : Setting) (name : String) (row : Nat) : String :=
  setting.parameterMark ++ withRow (setting.parameterName name) row

@[simp]
theorem segments_nil (setting : Setting) : setting.segments [] = [[]] := by
  rw [segments, segmentsFrom]

/-- A name has at least one segment. -/
theorem segmentsFrom_ne_nil (setting : Setting) (quoted : Bool) (segment name : List Char) :
    setting.segmentsFrom quoted segment name ≠ [] := by
  fun_induction setting.segmentsFrom quoted segment name <;> simp_all

end Setting

@[simp]
theorem withRow_zero (name : String) : withRow name 0 = name := by
  simp [withRow]

end SqlCompiler
