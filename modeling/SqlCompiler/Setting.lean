/-!
# Settings of a dialect

A setting says how identifiers are quoted, how parameters are marked, how the
parts of a dotted name are separated, and what the database can execute.  The
four dialects have default settings; single members can be overridden, where
an absent override keeps the member.
-/

namespace SqlCompiler

/-- How statements are written for a database. -/
structure Setting where
  openingQuote : String
  closingQuote : String
  parameterMark : String
  nameSeparator : String
  allowsHints : Bool
  allowsSeveralStatements : Bool
  averageType : Option String
  deriving DecidableEq, Repr

namespace Setting

def sqlServer : Setting where
  openingQuote := "["
  closingQuote := "]"
  parameterMark := "@"
  nameSeparator := "."
  allowsHints := true
  allowsSeveralStatements := true
  averageType := some "FLOAT"

def postgreSql : Setting where
  openingQuote := "\""
  closingQuote := "\""
  parameterMark := "@"
  nameSeparator := "."
  allowsHints := false
  allowsSeveralStatements := true
  averageType := some "DOUBLE PRECISION"

/-- The default setting of MySQL, which quotes with the grave accent. -/
def mySql : Setting where
  openingQuote := "\x60"
  closingQuote := "\x60"
  parameterMark := "@"
  nameSeparator := "."
  allowsHints := false
  allowsSeveralStatements := true
  averageType := some "DOUBLE"

def sqlite : Setting where
  openingQuote := "["
  closingQuote := "]"
  parameterMark := "@"
  nameSeparator := "."
  allowsHints := false
  allowsSeveralStatements := true
  averageType := some "REAL"

/-- Replacements for single members of a setting. -/
structure Overrides where
  openingQuote : Option String := none
  closingQuote : Option String := none
  parameterMark : Option String := none
  nameSeparator : Option String := none
  allowsHints : Option Bool := none
  allowsSeveralStatements : Option Bool := none
  averageType : Option String := none
  deriving DecidableEq, Repr

def override (setting : Setting) (overrides : Overrides) : Setting where
  openingQuote := overrides.openingQuote.getD setting.openingQuote
  closingQuote := overrides.closingQuote.getD setting.closingQuote
  parameterMark := overrides.parameterMark.getD setting.parameterMark
  nameSeparator := overrides.nameSeparator.getD setting.nameSeparator
  allowsHints := overrides.allowsHints.getD setting.allowsHints
  allowsSeveralStatements :=
    overrides.allowsSeveralStatements.getD setting.allowsSeveralStatements
  averageType := overrides.averageType.or setting.averageType

/-- Overriding nothing keeps the setting. -/
@[simp]
theorem override_nothing (setting : Setting) : setting.override {} = setting := by
  simp [override]

end Setting

end SqlCompiler
