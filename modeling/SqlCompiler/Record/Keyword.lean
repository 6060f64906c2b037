import SqlCompiler.Comparator.Basic
import SqlCompiler.Dialect
import SqlCompiler.Filter.Basic
import SqlCompiler.KeyPolicy
import SqlCompiler.Record.Basic

/-!
# Keywords and functions in documents

Dialects, sort orders, comparisons and policies are written as their names and
read with all their spellings.  Conjunctions, directions and types are
constants, read by their exact names only.  A function around a column is a
constant, or an object whose one member is the name and the argument.
-/

namespace SqlCompiler

namespace Dialect

def toJson (dialect : Dialect) : Json :=
  .string dialect.name

def decode? (document : Json) : Option Dialect :=
  Record.parsed? parse document

end Dialect

namespace SortOrder

def toJson (order : SortOrder) : Json :=
  .string order.name

def decode? (document : Json) : Option SortOrder :=
  Record.parsed? parse document

end SortOrder

namespace Comparison

def toJson (comparison : Comparison) : Json :=
  .string comparison.name

def decode? (document : Json) : Option Comparison :=
  Record.parsed? parse document

end Comparison

namespace KeyPolicy

def toJson (policy : KeyPolicy) : Json :=
  .string policy.name

def decode? (document : Json) : Option KeyPolicy :=
  Record.parsed? parse document

end KeyPolicy

namespace Conjunction

def toJson (conjunction : Conjunction) : Json :=
  .string conjunction.name

def decode? (document : Json) : Option Conjunction := do
  let name ← Record.constant? .json document
  named? name

end Conjunction

namespace Direction

def toJson (direction : Direction) : Json :=
  .string direction.name

def decode? (document : Json) : Option Direction := do
  let name ← Record.constant? .json document
  named? name

end Direction

namespace SqlType

def toJson (type : SqlType) : Json :=
  .string type.name

def decode? (source : Record.Source) (document : Json) : Option SqlType := do
  let name ← Record.constant? source document
  named? name

end SqlType

namespace ColumnFunction

/-- The functions that take no argument, with their names. -/
def constants : List (String × ColumnFunction) :=
  [("Lower", .lower), ("Upper", .upper), ("Trim", .trim), ("LTrim", .trimLeft),
    ("RTrim", .trimRight), ("Len", .len), ("Length", .length)]

def toJson : ColumnFunction → Json
  | .lower => .string "Lower"
  | .upper => .string "Upper"
  | .trim => .string "Trim"
  | .trimLeft => .string "LTrim"
  | .trimRight => .string "RTrim"
  | .len => .string "Len"
  | .length => .string "Length"
  | .left count => .object [("Left", Record.ofCount count)]
  | .right count => .object [("Right", Record.ofCount count)]
  | .custom template => .object [("Custom", .string template)]

def decodeCall? : Json → Option ColumnFunction
  | .object [("Left", argument)] => (Record.count? argument).map .left
  | .object [("Right", argument)] => (Record.count? argument).map .right
  | .object [("Custom", argument)] => (Record.text? argument).map .custom
  | _ => none

def decodeConstant? (document : Json) : Option ColumnFunction := do
  let name ← Record.constant? .json document
  (constants.find? (·.1 == name)).map Prod.snd

def decode? (document : Json) : Option ColumnFunction :=
  decodeCall? document <|> decodeConstant? document

end ColumnFunction

end SqlCompiler
