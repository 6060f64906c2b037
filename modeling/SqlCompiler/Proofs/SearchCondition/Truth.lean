import SqlCompiler.Filter.Basic

/-!
# Truth values of search conditions

A condition is true or false of a row, and in a database with nulls it can
also be unknown.  Both logics have the same connectives, and conjunction and
disjunction are associative with a unit in both, which is all that the joining
of conditions relies on.
-/

namespace SqlCompiler

/-- The truth values of a database with nulls. -/
inductive SqlTruth where
  | holds
  | fails
  | unknown
  deriving DecidableEq, Repr

namespace SqlTruth

def negation : SqlTruth → SqlTruth
  | .holds => .fails
  | .fails => .holds
  | .unknown => .unknown

def conjunction : SqlTruth → SqlTruth → SqlTruth
  | .fails, _ | _, .fails => .fails
  | .holds, .holds => .holds
  | _, _ => .unknown

def disjunction : SqlTruth → SqlTruth → SqlTruth
  | .holds, _ | _, .holds => .holds
  | .fails, .fails => .fails
  | _, _ => .unknown

end SqlTruth

/-- Truth values with their connectives, and the units of these. -/
structure Logic (Truth : Type) where
  negation : Truth → Truth
  combine : Conjunction → Truth → Truth → Truth
  unit : Conjunction → Truth
  combine_assoc : ∀ conjunction first second third,
    combine conjunction (combine conjunction first second) third =
      combine conjunction first (combine conjunction second third)
  combine_unit : ∀ conjunction truth, combine conjunction truth (unit conjunction) = truth

namespace Logic

def twoValued : Logic Bool where
  negation := not
  combine
    | .and => and
    | .or => or
  unit
    | .and => true
    | .or => false
  combine_assoc := by rintro (_ | _) <;> decide
  combine_unit := by rintro (_ | _) <;> decide

def threeValued : Logic SqlTruth where
  negation := SqlTruth.negation
  combine
    | .and => SqlTruth.conjunction
    | .or => SqlTruth.disjunction
  unit
    | .and => .holds
    | .or => .fails
  combine_assoc := by
    rintro (_ | _) first second third <;> cases first <;> cases second <;> cases third <;> rfl
  combine_unit := by rintro (_ | _) truth <;> cases truth <;> rfl

variable {Truth : Type} (logic : Logic Truth)

def combineAll (conjunction : Conjunction) (truths : List Truth) : Truth :=
  truths.foldr (logic.combine conjunction) (logic.unit conjunction)

/-- The truth value of a group from those of its items. -/
def group (conjunction : Conjunction) (negated : Bool) (truths : List Truth) : Truth :=
  if negated then logic.negation (logic.combineAll conjunction truths)
  else logic.combineAll conjunction truths

/-- Truth values joined from the left are joined as a whole. -/
theorem foldl_combine (conjunction : Conjunction) (truth : Truth) (truths : List Truth) :
    truths.foldl (logic.combine conjunction) truth =
      logic.combineAll conjunction (truth :: truths) := by
  induction truths generalizing truth with
  | nil => exact (logic.combine_unit conjunction truth).symm
  | cons next truths ih =>
      rw [List.foldl_cons, ih]
      exact logic.combine_assoc conjunction truth next _

/-- The unit is needed on the right only, so the first part must not be empty. -/
theorem combineAll_append (conjunction : Conjunction) {first : List Truth}
    (nonempty : first ≠ []) (second : List Truth) :
    logic.combineAll conjunction (first ++ second) =
      logic.combine conjunction (logic.combineAll conjunction first)
        (logic.combineAll conjunction second) := by
  induction first with
  | nil => exact absurd rfl nonempty
  | cons truth truths ih =>
      change logic.combine conjunction truth (logic.combineAll conjunction (truths ++ second)) =
        logic.combine conjunction (logic.combine conjunction truth
          (logic.combineAll conjunction truths)) (logic.combineAll conjunction second)
      cases truths with
      | nil => simp [combineAll, logic.combine_unit]
      | cons next truths => rw [ih (by simp), logic.combine_assoc]

@[simp]
theorem combineAll_singleton (conjunction : Conjunction) (truth : Truth) :
    logic.combineAll conjunction [truth] = truth :=
  logic.combine_unit conjunction truth

end Logic

end SqlCompiler
