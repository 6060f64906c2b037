import SqlCompiler.Number.Binary64
import SqlCompiler.Value.DateTime
import SqlCompiler.Value.Uuid

/-!
# Bound values

A value is what a caller binds to a parameter of a statement.  The compiler
never computes with values; it only asks whether a value is null and how many
elements a list has.
-/

namespace SqlCompiler

/-- A value bound to a parameter. -/
inductive Value where
  | null
  | bool (value : Bool)
  | int (value : Int64)
  | float (value : Binary64)
  | text (value : String)
  | list (items : List Value)
  | bytes (value : List UInt8)
  | uuid (value : Uuid)
  | dateTime (value : DateTime)
  deriving Repr, Inhabited

namespace Value

def isNull : Value → Bool
  | .null => true
  | _ => false

def list? : Value → Option (List Value)
  | .list items => some items
  | _ => none

def text? : Value → Option String
  | .text value => some value
  | _ => none

def items (value : Value) : List Value :=
  value.list?.getD []

@[simp]
theorem items_list (elements : List Value) : (list elements).items = elements :=
  rfl

end Value

end SqlCompiler
