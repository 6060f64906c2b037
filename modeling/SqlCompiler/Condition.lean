import SqlCompiler.Filter.Basic

/-!
# Conditions and their filters

A condition is a small expression language: comparisons of a column with a
constant, columns that are true, the boolean connectives and a few calls.  A
condition is translated into a filter.  Operands with the connective around
them are joined into one group, other connectives become groups of their own,
and a negation toggles the mark of a group.  A constant on the left turns the
comparison around.  Whatever is left over is refused, the leftmost leaf first.
-/

namespace SqlCompiler

/-- One side of a comparison. -/
inductive Operand where
  | column (name : String)
  | constant (value : Value)
  deriving Repr

/-- An order relation between two operands. -/
inductive Relation where
  | equal
  | notEqual
  | less
  | greater
  | lessOrEqual
  | greaterOrEqual
  deriving DecidableEq, Repr

namespace Relation

def flip : Relation → Relation
  | .equal => .equal
  | .notEqual => .notEqual
  | .less => .greater
  | .greater => .less
  | .lessOrEqual => .greaterOrEqual
  | .greaterOrEqual => .lessOrEqual

def comparison : Relation → Comparison
  | .equal => .equal
  | .notEqual => .notEqual
  | .less => .lessThan
  | .greater => .greaterThan
  | .lessOrEqual => .lessThanOrEqual
  | .greaterOrEqual => .greaterThanOrEqual

@[simp]
theorem flip_flip (relation : Relation) : relation.flip.flip = relation := by
  cases relation <;> rfl

end Relation

/-- A boolean expression over columns and constants. -/
inductive Condition where
  | compare (left : Operand) (relation : Relation) (right : Operand)
  | column (name : String)
  | and (left right : Condition)
  | or (left right : Condition)
  | not (condition : Condition)
  | call (function : String) (target : Operand) (arguments : List Operand)
  deriving Repr

namespace Condition

def compareWith (name : String) (relation : Relation) (value : Value) : Condition :=
  .compare (.column name) relation (.constant value)

def isNull (name : String) : Condition :=
  compareWith name .equal .null

def isNotNull (name : String) : Condition :=
  compareWith name .notEqual .null

def callWith (name function : String) (value : Value) : Condition :=
  .call function (.column name) [.constant value]

def like (name pattern : String) : Condition :=
  callWith name "like" (.text pattern)

def contains (name text : String) : Condition :=
  callWith name "contains" (.text text)

def startsWith (name text : String) : Condition :=
  callWith name "starts_with" (.text text)

def endsWith (name text : String) : Condition :=
  callWith name "ends_with" (.text text)

def oneOf (name : String) (values : List Value) : Condition :=
  callWith name "in" (.list values)

def containsPattern (text : String) : String := "%" ++ text ++ "%"

def startsWithPattern (text : String) : String := text ++ "%"

def endsWithPattern (text : String) : String := "%" ++ text

/-- The functions that a condition can call. -/
inductive Function where
  | contains
  | startsWith
  | endsWith
  | like
  | oneOf
  deriving DecidableEq, Repr

def functionSpellings : List (List String × Function) :=
  [(["contains"], .contains), (["startswith", "starts_with"], .startsWith),
    (["endswith", "ends_with"], .endsWith), (["like"], .like), (["in"], .oneOf)]

def comparisonComparator (left : Operand) (relation : Relation) (right : Operand) :
    Except CompileError Comparator :=
  match left, right with
  | .column name, .constant value => Comparator.make name relation.comparison value
  | .constant value, .column name => Comparator.make name relation.flip.comparison value
  | .column first, .column second => .error (.twoColumnsCompared first second)
  | .constant _, .constant _ => .error .noColumnCompared

def callComparator (function : String) (target : Operand) (arguments : List Operand) :
    Except CompileError Comparator :=
  match Text.lookup functionSpellings (Text.asciiLower function), target, arguments with
  | some .contains, .column name, [.constant (.text text)] =>
      Comparator.like name (.text (containsPattern text))
  | some .startsWith, .column name, [.constant (.text text)] =>
      Comparator.like name (.text (startsWithPattern text))
  | some .endsWith, .column name, [.constant (.text text)] =>
      Comparator.like name (.text (endsWithPattern text))
  | some .like, .column name, [.constant pattern] => Comparator.like name pattern
  | some .oneOf, .column name, [.constant (.list values)] =>
      Comparator.make name .oneOf (.list values)
  | some .contains, .constant (.list values), [.column name] =>
      Comparator.make name .oneOf (.list values)
  | _, _, _ => .error (.functionNotSupported function)

mutual

def toFilter : Condition → Except CompileError Filter
  | .and left right => do
      let first ← left.operandItems .and
      let second ← right.operandItems .and
      .ok { conjunction := .and, items := first ++ second }
  | .or left right => do
      let first ← left.operandItems .or
      let second ← right.operandItems .or
      .ok { conjunction := .or, items := first ++ second }
  | .not condition => do
      let filter ← condition.toFilter
      .ok filter.negate
  | .compare left relation right => do
      let comparator ← comparisonComparator left relation right
      .ok (.all [comparator])
  | .column name => do
      let comparator ← Comparator.equal name (.bool true)
      .ok (.all [comparator])
  | .call function target arguments => do
      let comparator ← callComparator function target arguments
      .ok (.all [comparator])

/-- The items that an operand adds to a group with a given conjunction. -/
def operandItems (conjunction : Conjunction) : Condition → Except CompileError FilterItems
  | .and left right => do
      let first ← left.operandItems .and
      let second ← right.operandItems .and
      match conjunction with
      | .and => .ok (first ++ second)
      | .or => .ok (.group .and false (first ++ second) .nil)
  | .or left right => do
      let first ← left.operandItems .or
      let second ← right.operandItems .or
      match conjunction with
      | .and => .ok (.group .or false (first ++ second) .nil)
      | .or => .ok (first ++ second)
  | .not condition => do
      let filter ← condition.toFilter
      .ok filter.negate.asItem
  | .compare left relation right => do
      let comparator ← comparisonComparator left relation right
      .ok (.leaf comparator .nil)
  | .column name => do
      let comparator ← Comparator.equal name (.bool true)
      .ok (.leaf comparator .nil)
  | .call function target arguments => do
      let comparator ← callComparator function target arguments
      .ok (.leaf comparator .nil)

end

end Condition

end SqlCompiler
