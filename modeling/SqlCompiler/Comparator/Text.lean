import SqlCompiler.Comparator.Basic

/-!
# The text and the parameters of a comparator

A comparator is written with the stem of its parameter, which is the name of
the parameter without the mark.  A range adds two endings to the stem and a
list one ending for each element.  Comparisons with null bind nothing, except
for a directional comparator, and an empty list is written as a condition that
never or always holds.  Every placeholder of the text is the name of a bound
parameter, in the same order.
-/

namespace SqlCompiler

/-- A parameter that a caller binds. -/
structure BoundParameter where
  name : String
  value : Value
  type : Option SqlType
  direction : Direction
  size : Option Nat
  deriving Repr

namespace Comparator

/-- The stem of the parameter name, without mark and row number. -/
def stem (comparator : Comparator) (setting : Setting) : String :=
  let name := setting.parameterName comparator.field.name
  if comparator.underscored then "_" ++ name else name

/-- The comparator compares with null and binds nothing. -/
def checksNull (comparator : Comparator) : Bool :=
  !comparator.isDirectional &&
    (comparator.comparison.isNullCheck ||
      (comparator.comparison.isEquality && comparator.value.isNull))

/-- The quoted column, inside its function if there is one. -/
def columnText (comparator : Comparator) (setting : Setting) : String :=
  let quoted := setting.quote comparator.field.name
  match comparator.kind with
  | .functional function => function.apply quoted
  | _ => quoted

def nullTest : Comparison → String
  | .notEqual | .isNotNull => "IS NOT NULL"
  | _ => "IS NULL"

/-- The condition that stands for a comparison with an empty list. -/
def emptyListTest : Comparison → String
  | .oneOf => "1 = 0"
  | _ => "1 = 1"

def rangeEndings : List String := ["_Left", "_Right"]

/-- The endings of the parameters of a list with so many elements. -/
def listEndings (count : Nat) : List String :=
  (List.range count).map (fun place => "_In_" ++ toString place)

def text (comparator : Comparator) (setting : Setting) (stem : String) : String :=
  match comparator.kind with
  | .literal text => text
  | _ =>
      let column := comparator.columnText setting
      let parameter := setting.parameterMark ++ stem
      let token := comparator.comparison.token
      if comparator.checksNull then
        column ++ " " ++ nullTest comparator.comparison
      else if comparator.comparison.isRange then
        column ++ " " ++ token ++ " " ++
          " AND ".intercalate (rangeEndings.map (parameter ++ ·))
      else if comparator.comparison.isList then
        match listEndings comparator.value.items.length with
        | [] => emptyListTest comparator.comparison
        | endings =>
            column ++ " " ++ token ++ " (" ++
              ", ".intercalate (endings.map (parameter ++ ·)) ++ ")"
      else
        column ++ " " ++ token ++ " " ++ parameter

/-- The values that a comparator binds, each with the ending of its parameter. -/
def bindings (comparator : Comparator) : List (String × Value) :=
  if comparator.isLiteral || comparator.checksNull then []
  else if comparator.comparison.isRange then
    rangeEndings.zip comparator.value.items
  else if comparator.comparison.isList then
    (listEndings comparator.value.items.length).zip comparator.value.items
  else [("", comparator.value)]

/-- The direction and size of the parameters; only a single parameter can have its own. -/
def binding (comparator : Comparator) : Direction × Option Nat :=
  match comparator.kind with
  | .directional direction size =>
      if comparator.comparison.isRange || comparator.comparison.isList then (.input, none)
      else (direction, size)
  | _ => (.input, none)

def parameters (comparator : Comparator) (setting : Setting) (stem : String) :
    List BoundParameter :=
  comparator.bindings.map (fun bound =>
    { name := setting.parameterMark ++ stem ++ bound.1
      value := bound.2
      type := comparator.field.type
      direction := comparator.binding.1
      size := comparator.binding.2 })

def textInRow (comparator : Comparator) (setting : Setting) (row : Nat) : String :=
  comparator.text setting (withRow (comparator.stem setting) row)

/-- The parameters of a comparator on its own, in a row. -/
def parametersInRow (comparator : Comparator) (setting : Setting) (row : Nat) :
    List BoundParameter :=
  comparator.parameters setting (withRow (comparator.stem setting) row)

/-- A literal binds nothing. -/
@[simp]
theorem bindings_literal (text : String) : (literal text).bindings = [] := by
  simp [bindings, literal, isLiteral]

/-- A literal is written as it is. -/
@[simp]
theorem text_literal (text : String) (setting : Setting) (stem : String) :
    (literal text).text setting stem = text := by
  simp [Comparator.text, literal]

end Comparator

end SqlCompiler
