import SqlCompiler.Error
import SqlCompiler.Text.Keyword

/-!
# Comparisons

The fourteen ways in which a column is compared with a value.  A comparison is
named by its constructor, by its SQL token or by a short alias, without regard
to case, low lines and blanks.
-/

namespace SqlCompiler

/-- A way to compare a column with a value. -/
inductive Comparison where
  | equal
  | notEqual
  | lessThan
  | greaterThan
  | lessThanOrEqual
  | greaterThanOrEqual
  | like
  | notLike
  | between
  | notBetween
  | oneOf
  | noneOf
  | isNull
  | isNotNull
  deriving DecidableEq, Repr, Hashable

namespace Comparison

def token : Comparison → String
  | .equal => "="
  | .notEqual => "<>"
  | .lessThan => "<"
  | .greaterThan => ">"
  | .lessThanOrEqual => "<="
  | .greaterThanOrEqual => ">="
  | .like => "LIKE"
  | .notLike => "NOT LIKE"
  | .between => "BETWEEN"
  | .notBetween => "NOT BETWEEN"
  | .oneOf => "IN"
  | .noneOf => "NOT IN"
  | .isNull => "IS NULL"
  | .isNotNull => "IS NOT NULL"

def name : Comparison → String
  | .equal => "Equal"
  | .notEqual => "NotEqual"
  | .lessThan => "LessThan"
  | .greaterThan => "GreaterThan"
  | .lessThanOrEqual => "LessThanOrEqual"
  | .greaterThanOrEqual => "GreaterThanOrEqual"
  | .like => "Like"
  | .notLike => "NotLike"
  | .between => "Between"
  | .notBetween => "NotBetween"
  | .oneOf => "In"
  | .noneOf => "NotIn"
  | .isNull => "IsNull"
  | .isNotNull => "IsNotNull"

def spellings : List (List String × Comparison) :=
  [(["equal", "eq", "=", "=="], .equal),
    (["notequal", "ne", "<>", "!="], .notEqual),
    (["lessthan", "lt", "<"], .lessThan),
    (["greaterthan", "gt", ">"], .greaterThan),
    (["lessthanorequal", "le", "lte", "<="], .lessThanOrEqual),
    (["greaterthanorequal", "ge", "gte", ">="], .greaterThanOrEqual),
    (["like"], .like),
    (["notlike"], .notLike),
    (["between"], .between),
    (["notbetween"], .notBetween),
    (["in"], .oneOf),
    (["notin"], .noneOf),
    (["isnull"], .isNull),
    (["isnotnull"], .isNotNull)]

/-- The comparison with a spelling, in any case and with any low lines and blanks. -/
def parse (text : String) : Except CompileError Comparison :=
  match Text.lookup spellings (Text.looseKeyword ['_', ' '] text) with
  | some comparison => .ok comparison
  | none => .error (.unknownComparison text)

def isRange : Comparison → Bool
  | .between | .notBetween => true
  | _ => false

def isList : Comparison → Bool
  | .oneOf | .noneOf => true
  | _ => false

def isNullCheck : Comparison → Bool
  | .isNull | .isNotNull => true
  | _ => false

def isEquality : Comparison → Bool
  | .equal | .notEqual => true
  | _ => false

/-- Every comparison is found under its own name. -/
theorem parse_name (comparison : Comparison) : parse comparison.name = .ok comparison := by
  cases comparison <;> rfl

/-- Every comparison is found under its SQL token. -/
theorem parse_token (comparison : Comparison) : parse comparison.token = .ok comparison := by
  cases comparison <;> rfl

end Comparison

end SqlCompiler
