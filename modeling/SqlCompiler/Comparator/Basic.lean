import SqlCompiler.Comparison
import SqlCompiler.Field
import SqlCompiler.Value.Basic

/-!
# Comparators

A comparator is a leaf of a filter: a column, a comparison and a bound value.
There are three special kinds.  A directional comparator binds a parameter
with a direction and a size, a functional one wraps the column in a function,
and a literal one is a text that binds nothing.  Values are checked when a
comparator is made: a range needs a list of two values and a list comparison
needs a list.

Equality and hashing look at the shape of a comparator, which is its column
name, comparison, declared type and kind.  The bound value and the mark of
`underscored` are no part of it.
-/

namespace SqlCompiler

/-- The direction of a bound parameter. -/
inductive Direction where
  | input
  | output
  | inputOutput
  | returnValue
  deriving DecidableEq, Repr, Hashable

namespace Direction

def all : List Direction :=
  [.input, .output, .inputOutput, .returnValue]

def name : Direction → String
  | .input => "Input"
  | .output => "Output"
  | .inputOutput => "InputOutput"
  | .returnValue => "ReturnValue"

def named? (text : String) : Option Direction :=
  all.find? (·.name == text)

end Direction

/-- A function of one argument around a column. -/
inductive ColumnFunction where
  | lower
  | upper
  | trim
  | trimLeft
  | trimRight
  | len
  | length
  | left (count : Nat)
  | right (count : Nat)
  | custom (template : String)
  deriving DecidableEq, Repr, Hashable

namespace ColumnFunction

def columnMark : String := "\x7b0\x7d"

def template : ColumnFunction → String
  | .lower => "LOWER(" ++ columnMark ++ ")"
  | .upper => "UPPER(" ++ columnMark ++ ")"
  | .trim => "TRIM(" ++ columnMark ++ ")"
  | .trimLeft => "LTRIM(" ++ columnMark ++ ")"
  | .trimRight => "RTRIM(" ++ columnMark ++ ")"
  | .len => "LEN(" ++ columnMark ++ ")"
  | .length => "LENGTH(" ++ columnMark ++ ")"
  | .left count => "LEFT(" ++ columnMark ++ ", " ++ toString count ++ ")"
  | .right count => "RIGHT(" ++ columnMark ++ ", " ++ toString count ++ ")"
  | .custom template => template

def apply (function : ColumnFunction) (column : String) : String :=
  .ofList (Text.replaceAll columnMark.toList column.toList function.template.toList)

def hasColumn (function : ColumnFunction) : Bool :=
  Text.occursIn columnMark.toList function.template.toList

/-- Only a template of the caller can lack a place for the column. -/
theorem hasColumn_or_custom (function : ColumnFunction) :
    function.hasColumn = true ∨ ∃ template, function = .custom template := by
  have around (opening closing : String) :
      Text.occursIn columnMark.toList (opening ++ columnMark ++ closing).toList = true := by
    simpa using Text.occursIn_append opening.toList columnMark.toList closing.toList
  cases function with
  | custom template => exact .inr ⟨template, rfl⟩
  | left count =>
      refine .inl ?_
      rw [hasColumn, template, String.append_assoc, String.append_assoc]
      exact around "LEFT(" _
  | right count =>
      refine .inl ?_
      rw [hasColumn, template, String.append_assoc, String.append_assoc]
      exact around "RIGHT(" _
  | _ => exact .inl (around _ _)

end ColumnFunction

/-- The kinds of comparators. -/
inductive ComparatorKind where
  | plain
  | directional (direction : Direction) (size : Option Nat)
  | functional (function : ColumnFunction)
  | literal (text : String)
  deriving DecidableEq, Repr, Hashable

def ComparatorKind.name : ComparatorKind → String
  | .plain => "plain"
  | .directional _ _ => "directional"
  | .functional _ => "functional"
  | .literal _ => "literal"

/-- A leaf of a filter. -/
structure Comparator where
  field : Field
  comparison : Comparison
  value : Value
  kind : ComparatorKind
  /-- The name of the parameter starts with a low line. -/
  underscored : Bool := false
  deriving Repr

namespace Comparator

/-- The value has the form that the comparison asks for. -/
def valueFits (comparison : Comparison) (value : Value) : Bool :=
  (!comparison.isRange || value.list?.any (·.length == 2)) &&
    (!comparison.isList || value.list?.isSome)

/-- Refuse a value that does not have the form that the comparison asks for. -/
def checkValue (name : String) (comparison : Comparison) (value : Value) :
    Except CompileError Unit :=
  if valueFits comparison value then .ok ()
  else if comparison.isRange then .error (.rangeNeedsTwoValues name comparison.token)
  else .error (.listNeedsValues name comparison.token)

/-- A comparator of a kind, after the checks of its name and its value. -/
def ofKind (kind : ComparatorKind) (name : String) (comparison : Comparison) (value : Value) :
    Except CompileError Comparator := do
  let field ← Field.ofName name
  checkValue field.name comparison value
  .ok { field, comparison, value, kind }

def make (name : String) (comparison : Comparison) (value : Value) :
    Except CompileError Comparator :=
  ofKind .plain name comparison value

def equal (name : String) (value : Value) : Except CompileError Comparator :=
  make name .equal value

def like (name : String) (pattern : Value) : Except CompileError Comparator :=
  make name .like pattern

def between (name : String) (first last : Value) : Except CompileError Comparator :=
  make name .between (.list [first, last])

def notBetween (name : String) (first last : Value) : Except CompileError Comparator :=
  make name .notBetween (.list [first, last])

/-- A comparator for equality whose parameter has a direction and a size. -/
def directional (name : String) (value : Value) (direction : Direction) (size : Option Nat) :
    Except CompileError Comparator :=
  ofKind (.directional direction size) name .equal value

/-- A comparator with a function around its column; the template needs a place for it. -/
def functional (name : String) (comparison : Comparison) (value : Value)
    (function : ColumnFunction) : Except CompileError Comparator :=
  if function.hasColumn then ofKind (.functional function) name comparison value
  else .error (.templateWithoutColumn function.template)

def literal (text : String) : Comparator where
  field := { name := text }
  comparison := .equal
  value := .null
  kind := .literal text

/-- Comparators for equality with some values, in order. -/
def ofPairs (pairs : List (String × Value)) : Except CompileError (List Comparator) :=
  pairs.mapM (fun pair => equal pair.1 pair.2)

def withType (comparator : Comparator) (type : SqlType) : Comparator :=
  { comparator with field := { comparator.field with type := some type } }

/-- The comparator whose parameter name starts with a low line. -/
def withUnderscore (comparator : Comparator) : Comparator :=
  { comparator with underscored := true }

def isLiteral (comparator : Comparator) : Bool :=
  match comparator.kind with
  | .literal _ => true
  | _ => false

def isDirectional (comparator : Comparator) : Bool :=
  match comparator.kind with
  | .directional _ _ => true
  | _ => false

/-- What the equality of comparators looks at. -/
structure Shape where
  name : String
  comparison : Comparison
  type : Option SqlType
  kind : ComparatorKind
  deriving DecidableEq, Repr, Hashable

def shape (comparator : Comparator) : Shape where
  name := comparator.field.name
  comparison := comparator.comparison
  type := comparator.field.type
  kind := comparator.kind

instance : BEq Comparator where
  beq first second := first.shape == second.shape

instance : Hashable Comparator where
  hash comparator := hash comparator.shape

/-- Two comparators are equal exactly when their shapes are. -/
theorem beq_iff_shape_eq (first second : Comparator) :
    (first == second) = true ↔ first.shape = second.shape := by
  simp [BEq.beq]

/-- The low line in front of the parameter name is no part of the shape. -/
@[simp]
theorem shape_withUnderscore (comparator : Comparator) :
    comparator.withUnderscore.shape = comparator.shape :=
  rfl

end Comparator

end SqlCompiler
