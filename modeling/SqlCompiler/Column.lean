import SqlCompiler.Field

/-!
# Columns of a schema

A column describes what the database knows about a field: whether it belongs
to the primary key, whether the database generates its values, its declared
type and its size.  Columns are found by name, up to quotes and the case of
A to Z; of several columns the first counts.
-/

namespace SqlCompiler

/-- A column of a table. -/
structure Column where
  name : String
  isPrimary : Bool := false
  isIdentity : Bool := false
  isNullable : Bool := true
  type : Option SqlType := none
  size : Option Nat := none
  precision : Option UInt8 := none
  scale : Option UInt8 := none
  hasDefault : Bool := false
  deriving DecidableEq, Repr

namespace Column

def primary (name : String) : Column where
  name := name
  isPrimary := true
  isNullable := false

/-- A column of the primary key whose values the database generates. -/
def identity (name : String) : Column :=
  { primary name with isIdentity := true }

def field (column : Column) : Field where
  name := column.name
  type := column.type

def isNamed (column : Column) (setting : Setting) (name : String) : Bool :=
  setting.sameName column.name name

def findPrimary? (columns : List Column) : Option Column :=
  columns.find? (·.isPrimary)

/-- The first column whose values the database generates. -/
def findIdentity? (columns : List Column) : Option Column :=
  columns.find? (·.isIdentity)

def findNamed? (columns : List Column) (setting : Setting) (name : String) : Option Column :=
  columns.find? (fun column => column.isNamed setting name)

end Column

end SqlCompiler
