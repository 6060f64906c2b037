import SqlCompiler.Proofs.Filter.Walks

/-!
# What does not depend on the mark of parameters

A setting can be given another mark for its parameters.  Only placeholders
change with it: identifiers are quoted and compared as before, parameters keep
their names behind the mark, and a filter hands out the same stems.
-/

namespace SqlCompiler

namespace Setting

/-- The setting with another mark in front of parameters. -/
def withMark (setting : Setting) (mark : String) : Setting :=
  { setting with parameterMark := mark }

@[simp]
theorem withMark_parameterMark (setting : Setting) :
    setting.withMark setting.parameterMark = setting :=
  rfl

@[simp]
theorem parameterMark_withMark (setting : Setting) (mark : String) :
    (setting.withMark mark).parameterMark = mark :=
  rfl

@[simp]
theorem openingQuote_withMark (setting : Setting) (mark : String) :
    (setting.withMark mark).openingQuote = setting.openingQuote :=
  rfl

@[simp]
theorem closingQuote_withMark (setting : Setting) (mark : String) :
    (setting.withMark mark).closingQuote = setting.closingQuote :=
  rfl

@[simp]
theorem nameSeparator_withMark (setting : Setting) (mark : String) :
    (setting.withMark mark).nameSeparator = setting.nameSeparator :=
  rfl

theorem segmentsFrom_withMark (setting : Setting) (mark : String) (quoted : Bool)
    (segment name : List Char) :
    (setting.withMark mark).segmentsFrom quoted segment name =
      setting.segmentsFrom quoted segment name := by
  -- No test on the way looks at the mark, so both readers take the same branch.
  induction quoted, segment, name using segmentsFrom.induct setting with
  | case1 => simp only [segmentsFrom]
  | case2 quoted segment c rest opening opens ih =>
      rw [segmentsFrom, segmentsFrom, if_pos opens]
      exact (if_pos opens).trans ih
  | case3 quoted segment c rest opening closing unopened closes doubled ih =>
      rw [segmentsFrom, segmentsFrom, if_neg unopened, if_pos closes, if_pos doubled]
      exact (if_neg unopened).trans ((if_pos closes).trans ((if_pos doubled).trans ih))
  | case4 quoted segment c rest opening closing unopened closes single ih =>
      rw [segmentsFrom, segmentsFrom, if_neg unopened, if_pos closes, if_neg single]
      exact (if_neg unopened).trans ((if_pos closes).trans ((if_neg single).trans ih))
  | case5 quoted segment c rest opening closing separator unopened unclosed separated ih =>
      rw [segmentsFrom, segmentsFrom, if_neg unopened, if_neg unclosed, if_pos separated]
      exact (if_neg unopened).trans ((if_neg unclosed).trans
        ((if_pos separated).trans (congrArg (segment :: ·) ih)))
  | case6 quoted segment c rest opening closing separator unopened unclosed unseparated ih =>
      rw [segmentsFrom, segmentsFrom, if_neg unopened, if_neg unclosed, if_neg unseparated]
      exact (if_neg unopened).trans ((if_neg unclosed).trans ((if_neg unseparated).trans ih))

@[simp]
theorem quote_withMark (setting : Setting) (mark name : String) :
    (setting.withMark mark).quote name = setting.quote name := by
  simp only [quote, mapSegments, segments, segmentsFrom_withMark]
  rfl

@[simp]
theorem parameterName_withMark (setting : Setting) (mark name : String) :
    (setting.withMark mark).parameterName name = setting.parameterName name := by
  simp only [parameterName, unquote, mapSegments, segments, segmentsFrom_withMark]
  rfl

theorem parameter_withMark (setting : Setting) (mark name : String) (row : Nat) :
    (setting.withMark mark).parameter name row =
      mark ++ withRow (setting.parameterName name) row := by
  rw [parameter, parameterName_withMark]
  rfl

end Setting

@[simp]
theorem Comparator.stem_withMark (comparator : Comparator) (setting : Setting) (mark : String) :
    comparator.stem (setting.withMark mark) = comparator.stem setting := by
  simp [Comparator.stem]

@[simp]
theorem Comparator.columnText_withMark (comparator : Comparator) (setting : Setting)
    (mark : String) :
    comparator.columnText (setting.withMark mark) = comparator.columnText setting := by
  simp [Comparator.columnText]

/-- The stems of a filter are handed out whatever the mark is. -/
@[simp]
theorem FilterItems.named_withMark (setting : Setting) (mark : String) (row : Nat)
    (items : FilterItems) (namer : Namer) :
    items.named (setting.withMark mark) row namer = items.named setting row namer := by
  induction items generalizing namer with
  | nil => rfl
  | leaf comparator rest ih => simp only [named, ih, Comparator.stem_withMark]
  | group conjunction negated inner rest innerIH restIH => simp only [named, innerIH, restIH]

end SqlCompiler
