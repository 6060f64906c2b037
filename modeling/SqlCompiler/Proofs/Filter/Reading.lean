import Mathlib.Data.List.Forall2
import SqlCompiler.Proofs.Filter.Tokens

/-!
# The text of a filter read back

Read as a search condition, with the usual precedence of the keywords, the
tokens of a filter are accepted as a whole.  Whatever truth values the leaves
have, the condition has the truth value of the filter: each group is the
conjunction or the disjunction of its items, without the items that are empty
groups, and is turned around when it is negated.

Operands are written in parentheses or are leaves, so they are factors; joined
by `AND` they make a term, and joined by `OR` a condition.
-/

namespace SqlCompiler

namespace FilterItems

/-- The truth values of the items that are not empty. -/
def truths {Truth : Type} (logic : Logic Truth) (assignment : Nat → Truth) :
    FilterItems → Nat → List Truth
  | .nil, _ => []
  | .leaf _ rest, place => assignment place :: rest.truths logic assignment (place + 1)
  | .group conjunction negated items rest, place =>
      (if items.isEmpty then []
        else [logic.group conjunction negated (items.truths logic assignment place)]) ++
        rest.truths logic assignment (place + items.comparators.length)

end FilterItems

namespace Filter

def truth {Truth : Type} (filter : Filter) (logic : Logic Truth) (assignment : Nat → Truth) :
    Truth :=
  logic.group filter.conjunction filter.negated (filter.items.truths logic assignment 0)

end Filter

namespace SearchCondition

def join : Conjunction → SearchCondition → SearchCondition → SearchCondition
  | .and => .and
  | .or => .or

/-- What factors make when they are joined. -/
def joinLevel : Conjunction → Level
  | .and => .term
  | .or => .condition

@[simp]
theorem value_join {Truth : Type} (logic : Logic Truth) (assignment : Nat → Truth)
    (conjunction : Conjunction) (first second : SearchCondition) :
    (join conjunction first second).value logic assignment =
      logic.combine conjunction (first.value logic assignment)
        (second.value logic assignment) := by
  cases conjunction <;> rfl

theorem value_foldl_join {Truth : Type} (logic : Logic Truth) (assignment : Nat → Truth)
    (conjunction : Conjunction) (first : SearchCondition) (conditions : List SearchCondition) :
    (conditions.foldl (join conjunction) first).value logic assignment =
      logic.combineAll conjunction ((first :: conditions).map (value logic assignment)) := by
  rw [List.map_cons, ← logic.foldl_combine, List.foldl_map]
  induction conditions generalizing first with
  | nil => rfl
  | cons next conditions ih =>
      rw [List.foldl_cons, List.foldl_cons, ih, value_join]

theorem derives_join (conjunction : Conjunction) {tokens later : List Token}
    {first second : SearchCondition} (front : Derives (joinLevel conjunction) tokens first)
    (back : Derives .factor later second) :
    Derives (joinLevel conjunction) (tokens ++ connective conjunction :: later)
      (join conjunction first second) := by
  cases conjunction with
  | and => exact .and front back
  | or => exact .or front (.ofFactor back)

theorem derives_foldl_join (conjunction : Conjunction) {tokens : List Token}
    {operands : List (List Token)} {first : SearchCondition} {conditions : List SearchCondition}
    (front : Derives (joinLevel conjunction) tokens first)
    (derives : List.Forall₂ (Derives .factor) operands conditions) :
    Derives (joinLevel conjunction) ([connective conjunction].intercalate (tokens :: operands))
      (conditions.foldl (join conjunction) first) := by
  induction derives generalizing tokens first with
  | nil => simpa using front
  | @cons operand condition operands conditions back rest ih =>
      have joined := ih (derives_join conjunction front back)
      cases operands <;> simpa [List.intercalate_cons_cons, List.append_assoc] using joined

theorem derives_of_joinLevel {conjunction : Conjunction} {tokens : List Token}
    {inner : SearchCondition} (derives : Derives (joinLevel conjunction) tokens inner) :
    Derives .condition tokens inner := by
  cases conjunction with
  | and => exact .ofTerm derives
  | or => exact derives

/-- A group of factors is a factor with the truth value of the group. -/
theorem exists_derives_groupTokens (conjunction : Conjunction) (negated : Bool)
    {operands : List (List Token)} {conditions : List SearchCondition}
    (nonempty : operands ≠ [])
    (derives : List.Forall₂ (Derives .factor) operands conditions) :
    ∃ condition, Derives .factor (groupTokens conjunction negated operands) condition ∧
      ∀ {Truth : Type} (logic : Logic Truth) (assignment : Nat → Truth),
        condition.value logic assignment =
          logic.group conjunction negated (conditions.map (value logic assignment)) := by
  cases derives with
  | nil => exact absurd rfl nonempty
  | @cons operand first operands conditions front back =>
      have lifted : Derives (joinLevel conjunction) operand first := by
        cases conjunction with
        | and => exact .ofFactor front
        | or => exact .ofTerm (.ofFactor front)
      have inside := derives_of_joinLevel (derives_foldl_join conjunction lifted back)
      have whole := Derives.ofPrimary (.parentheses inside)
      cases negated with
      | false =>
          refine ⟨_, whole, ?_⟩
          intro Truth logic assignment
          exact value_foldl_join logic assignment conjunction first conditions
      | true =>
          refine ⟨_, .not whole, ?_⟩
          intro Truth logic assignment
          exact congrArg logic.negation
            (value_foldl_join logic assignment conjunction first conditions)

end SearchCondition

open SearchCondition

namespace FilterItems

/-- The operands of a group are factors with the truth values of its items. -/
theorem exists_conditions (items : FilterItems) (place : Nat) :
    ∃ conditions, List.Forall₂ (Derives .factor) (items.operands place) conditions ∧
      ∀ {Truth : Type} (logic : Logic Truth) (assignment : Nat → Truth),
        conditions.map (value logic assignment) = items.truths logic assignment place := by
  induction items generalizing place with
  | nil => exact ⟨[], .nil, fun _ _ => rfl⟩
  | leaf comparator rest ih =>
      obtain ⟨conditions, derives, values⟩ := ih (place + 1)
      refine ⟨.leaf place :: conditions, .cons (.ofPrimary (.leaf place)) derives, ?_⟩
      intro Truth logic assignment
      rw [List.map_cons, values]
      rfl
  | group conjunction negated inner rest innerIH restIH =>
      obtain ⟨conditions, derives, values⟩ := restIH (place + inner.comparators.length)
      obtain ⟨innerConditions, innerDerives, innerValues⟩ := innerIH place
      unfold operands truths
      split
      next => exact ⟨conditions, derives, values⟩
      next notEmpty =>
        have nonempty : inner.operands place ≠ [] := by
          simpa [operands_eq_nil_iff] using notEmpty
        obtain ⟨condition, derivesGroup, valueGroup⟩ :=
          exists_derives_groupTokens conjunction negated nonempty innerDerives
        refine ⟨condition :: conditions, .cons derivesGroup derives, ?_⟩
        intro Truth logic assignment
        rw [List.map_cons, valueGroup, values, innerValues]
        rfl

end FilterItems

namespace Filter

theorem exists_parse_tokens (filter : Filter) (nonempty : filter.comparators ≠ []) :
    ∃ condition, parse filter.tokens = some condition ∧
      ∀ {Truth : Type} (logic : Logic Truth) (assignment : Nat → Truth),
        condition.value logic assignment = filter.truth logic assignment := by
  obtain ⟨conditions, derives, values⟩ := filter.items.exists_conditions 0
  obtain ⟨condition, derivesGroup, valueGroup⟩ :=
    exists_derives_groupTokens filter.conjunction filter.negated
      (operands_ne_nil filter nonempty) derives
  refine ⟨condition, ?_, ?_⟩
  · exact (parse_eq_some_iff filter.tokens condition).mpr (.ofTerm (.ofFactor derivesGroup))
  · intro Truth logic assignment
    rw [valueGroup, values]
    rfl

/--
The text of a filter with a leaf means the filter.

It is spelled by tokens in which every leaf occurs once and in its place.  All
of them are read as one condition, and its truth value is that of the filter
whatever is true of the leaves, with nulls and without.
-/
theorem parse_tokens (filter : Filter) (nonempty : filter.comparators ≠ []) (setting : Setting)
    (row : Nat) :
    spell (filter.leafTexts setting row) filter.tokens = filter.text setting row ∧
      places filter.tokens = List.range filter.comparators.length ∧
      ∃ condition, parse filter.tokens = some condition ∧
        (∀ assignment : Nat → Bool, condition.value .twoValued assignment =
          filter.truth .twoValued assignment) ∧
        (∀ assignment : Nat → SqlTruth, condition.value .threeValued assignment =
          filter.truth .threeValued assignment) := by
  refine ⟨spell_tokens filter nonempty setting row, places_tokens filter, ?_⟩
  obtain ⟨condition, parsed, values⟩ := exists_parse_tokens filter nonempty
  exact ⟨condition, parsed, values .twoValued, values .threeValued⟩

/-- A negated filter with a negated group, an empty group and a group of one item. -/
def nestedSample : Filter where
  conjunction := .or
  negated := true
  items :=
    .group .and true
      (.leaf { field := { name := "Age" }, comparison := .between,
               value := .list [.int 18, .int 65], kind := .plain }
        (.leaf (.literal "[Deleted] = 0") .nil))
      (.group .and true (.group .or false .nil .nil)
        (.group .and false
          (.leaf { field := { name := "Name" }, comparison := .equal,
                   value := .null, kind := .plain } .nil) .nil))

theorem parse_tokens_nestedSample :
    nestedSample.comparators ≠ [] ∧
      spell (nestedSample.leafTexts .sqlServer 2) nestedSample.tokens =
        nestedSample.text .sqlServer 2 ∧
      places nestedSample.tokens = List.range nestedSample.comparators.length ∧
      ∃ condition, parse nestedSample.tokens = some condition ∧
        (∀ assignment : Nat → Bool, condition.value .twoValued assignment =
          nestedSample.truth .twoValued assignment) ∧
        (∀ assignment : Nat → SqlTruth, condition.value .threeValued assignment =
          nestedSample.truth .threeValued assignment) := by
  have nonempty : nestedSample.comparators ≠ [] := by
    simp [nestedSample, comparators, FilterItems.comparators]
  exact ⟨nonempty, parse_tokens nestedSample nonempty .sqlServer 2⟩

example : nestedSample.text .sqlServer 0 =
    "NOT (NOT ([Age] BETWEEN @Age_Left AND @Age_Right AND [Deleted] = 0) OR ([Name] IS NULL))" := by
  decide +kernel

end Filter

end SqlCompiler
