/-!
# Declared database types

A field, a column or a parameter may declare the database type of its values.
The names of the types are exact: they are read and written in one spelling.
-/

namespace SqlCompiler

/-- A declared database type. -/
inductive SqlType where
  | ansiString
  | binary
  | boolean
  | byte
  | currency
  | date
  | dateTime
  | dateTime2
  | dateTimeOffset
  | decimal
  | double
  | guid
  | int16
  | int32
  | int64
  | object
  | single
  | string
  | time
  | xml
  deriving DecidableEq, Repr, Hashable

namespace SqlType

def all : List SqlType :=
  [.ansiString, .binary, .boolean, .byte, .currency, .date, .dateTime, .dateTime2,
    .dateTimeOffset, .decimal, .double, .guid, .int16, .int32, .int64, .object,
    .single, .string, .time, .xml]

def name : SqlType → String
  | .ansiString => "AnsiString"
  | .binary => "Binary"
  | .boolean => "Boolean"
  | .byte => "Byte"
  | .currency => "Currency"
  | .date => "Date"
  | .dateTime => "DateTime"
  | .dateTime2 => "DateTime2"
  | .dateTimeOffset => "DateTimeOffset"
  | .decimal => "Decimal"
  | .double => "Double"
  | .guid => "Guid"
  | .int16 => "Int16"
  | .int32 => "Int32"
  | .int64 => "Int64"
  | .object => "Object"
  | .single => "Single"
  | .string => "String"
  | .time => "Time"
  | .xml => "Xml"

def named? (text : String) : Option SqlType :=
  all.find? (·.name == text)

/-- Every database type is found under its own name. -/
@[simp]
theorem named?_name (type : SqlType) : named? type.name = some type := by
  cases type <;> decide

end SqlType

end SqlCompiler
