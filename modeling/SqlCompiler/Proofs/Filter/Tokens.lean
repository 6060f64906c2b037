import SqlCompiler.Proofs.Filter.Leaves
import SqlCompiler.Proofs.SearchCondition.Grammar

/-!
# The tokens of a filter

The text of a filter is spelled by parentheses, keywords and the texts of its
leaves, which are opaque: a leaf is a token that knows its place among the
leaves.  The tokens are read off the tree alone, whatever the setting is and
whatever the leaves are.  They spell the text of the filter, and every leaf
occurs among them once, in its place.
-/

namespace SqlCompiler

namespace SearchCondition

def connective : Conjunction → Token
  | .and => .and
  | .or => .or

/-- How a token is written when the texts of the leaves are given. -/
def Token.spelling (texts : List String) : Token → String
  | .opening => "("
  | .closing => ")"
  | .not => "NOT "
  | .and => " AND "
  | .or => " OR "
  | .leaf place => texts.getD place ""

def Token.place? : Token → Option Nat
  | .leaf place => some place
  | _ => none

def places (tokens : List Token) : List Nat :=
  tokens.filterMap Token.place?

def spell (texts : List String) (tokens : List Token) : String :=
  String.join (tokens.map (Token.spelling texts))

/-- The tokens of a group from those of its operands. -/
def groupTokens (conjunction : Conjunction) (negated : Bool) (operands : List (List Token)) :
    List Token :=
  (if negated then [.not] else []) ++
    .opening :: ([connective conjunction].intercalate operands ++ [.closing])

end SearchCondition

open SearchCondition

namespace NamedItems

def leafTexts (setting : Setting) (items : NamedItems) : List String :=
  items.leaves.map (fun leaf => leaf.1.text setting leaf.2)

end NamedItems

namespace FilterItems

/-- The tokens of the items that are not empty, where the first leaf has a given place. -/
def operands : FilterItems → Nat → List (List Token)
  | .nil, _ => []
  | .leaf _ rest, place => [.leaf place] :: rest.operands (place + 1)
  | .group conjunction negated items rest, place =>
      (if items.isEmpty then [] else [groupTokens conjunction negated (items.operands place)]) ++
        rest.operands (place + items.comparators.length)

end FilterItems

namespace Filter

def tokens (filter : Filter) : List Token :=
  groupTokens filter.conjunction filter.negated (filter.items.operands 0)

def leafTexts (filter : Filter) (setting : Setting) (row : Nat) : List String :=
  (filter.namedItems setting row).leafTexts setting

end Filter

namespace SearchCondition

@[simp]
theorem spell_nil (texts : List String) : spell texts [] = "" := by
  simp [spell]

@[simp]
theorem spell_cons (texts : List String) (token : Token) (tokens : List Token) :
    spell texts (token :: tokens) = token.spelling texts ++ spell texts tokens := by
  simp [spell]

@[simp]
theorem spell_append (texts : List String) (first second : List Token) :
    spell texts (first ++ second) = spell texts first ++ spell texts second := by
  induction first with
  | nil => simp
  | cons token rest ih => simp [ih, String.append_assoc]

@[simp]
theorem places_nil : places [] = [] :=
  rfl

@[simp]
theorem places_cons (token : Token) (tokens : List Token) :
    places (token :: tokens) = token.place?.toList ++ places tokens := by
  cases token <;> rfl

@[simp]
theorem places_append (first second : List Token) :
    places (first ++ second) = places first ++ places second := by
  simp [places]

theorem spell_intercalate (texts : List String) (conjunction : Conjunction)
    (operands : List (List Token)) :
    spell texts ([connective conjunction].intercalate operands) =
      (" " ++ conjunction.keyword ++ " ").intercalate (operands.map (spell texts)) := by
  have keyword : (connective conjunction).spelling texts = " " ++ conjunction.keyword ++ " " := by
    cases conjunction <;> rfl
  induction operands with
  | nil => simp
  | cons operand operands ih =>
      cases operands with
      | nil => simp
      | cons next operands =>
          rw [List.intercalate_cons_cons, spell_append, ih, spell_append]
          simp [keyword]

theorem spell_groupTokens (texts : List String) (conjunction : Conjunction) (negated : Bool)
    {operands : List (List Token)} (nonempty : operands ≠ []) :
    spell texts (groupTokens conjunction negated operands) =
      joinedText conjunction negated (operands.map (spell texts)) := by
  have notEmpty : (operands.map (spell texts)).isEmpty = false := by simpa using nonempty
  cases negated <;>
    simp only [groupTokens, joinedText, notEmpty, Bool.false_eq_true, if_false, if_true,
      List.nil_append, List.cons_append, spell_cons, spell_append, spell_intercalate, spell_nil,
      Token.spelling, String.append_empty, String.append_assoc]

theorem places_intercalate (conjunction : Conjunction) (operands : List (List Token)) :
    places ([connective conjunction].intercalate operands) = places operands.flatten := by
  have keyword : (connective conjunction).place? = none := by cases conjunction <;> rfl
  induction operands with
  | nil => rfl
  | cons operand operands ih =>
      cases operands with
      | nil => simp
      | cons next operands =>
          rw [List.intercalate_cons_cons, places_append, ih, places_append]
          simp [keyword]

theorem places_groupTokens (conjunction : Conjunction) (negated : Bool)
    (operands : List (List Token)) :
    places (groupTokens conjunction negated operands) = places operands.flatten := by
  cases negated <;> simp [groupTokens, places_intercalate, Token.place?]

end SearchCondition

namespace FilterItems

theorem operands_eq_nil_iff (items : FilterItems) (place : Nat) :
    items.operands place = [] ↔ items.isEmpty = true := by
  induction items generalizing place with
  | nil => simp [operands, isEmpty]
  | leaf comparator rest _ => simp [operands, isEmpty]
  | group conjunction negated inner rest innerIH restIH =>
      cases empty : inner.isEmpty <;> simp [operands, isEmpty, empty, restIH]

/-- The leaves of the operands are the comparators, one place after the other. -/
theorem places_operands (items : FilterItems) (place : Nat) :
    places (items.operands place).flatten = List.range' place items.comparators.length := by
  induction items generalizing place with
  | nil => rfl
  | leaf comparator rest ih => simp [operands, comparators, Token.place?, ih, List.range'_succ]
  | group conjunction negated inner rest innerIH restIH =>
      simp only [operands, comparators, List.length_append, ← List.range'_append_1,
        List.flatten_append, places_append, restIH]
      split
      next empty =>
        have noComparator := comparators_eq_nil_of_isEmpty empty
        simp [noComparator]
      next => simp [places_groupTokens, innerIH]

theorem length_leafTexts_named (setting : Setting) (row : Nat) (items : FilterItems)
    (namer : Namer) :
    ((items.named setting row namer).1.leafTexts setting).length = items.comparators.length := by
  have named := congrArg List.length (Namer.map_fst_nameAll setting row items.comparators namer)
  rw [List.length_map] at named
  rw [NamedItems.leafTexts, List.length_map, (named_eq_nameAll setting row items namer).1, named]

/-- The operands are spelled as the items are written, wherever their leaves stand. -/
theorem map_spell_operands (setting : Setting) (row : Nat) (items : FilterItems) (namer : Namer)
    (before after : List String) :
    (items.operands before.length).map
        (spell (before ++ (items.named setting row namer).1.leafTexts setting ++ after)) =
      (items.named setting row namer).1.texts setting := by
  induction items generalizing namer before after with
  | nil => rfl
  | leaf comparator rest ih =>
      unfold named
      split
      next =>
        have later := ih namer (before ++ [comparator.text setting ""]) after
        simpa [operands, NamedItems.leafTexts, NamedItems.leaves, NamedItems.texts,
          Token.spelling] using later
      next =>
        have later := ih (namer.next (comparator.stem setting)).2
          (before ++ [comparator.text setting
            (withRow (namer.next (comparator.stem setting)).1 row)]) after
        simpa [operands, NamedItems.leafTexts, NamedItems.leaves, NamedItems.texts,
          Token.spelling] using later
  | group conjunction negated inner rest innerIH restIH =>
      unfold named
      split
      next empty =>
        have noComparator := comparators_eq_nil_of_isEmpty empty
        simpa [operands, empty, noComparator] using restIH namer before after
      next notEmpty =>
        have nonempty : inner.operands before.length ≠ [] := by
          simpa [operands_eq_nil_iff] using notEmpty
        have early := innerIH namer before
          ((rest.named setting row (inner.named setting row namer).2).1.leafTexts setting ++ after)
        have later := restIH (inner.named setting row namer).2
          (before ++ (inner.named setting row namer).1.leafTexts setting) after
        rw [List.length_append, length_leafTexts_named] at later
        rw [operands, if_neg notEmpty, List.map_append, List.map_singleton,
          spell_groupTokens _ _ _ nonempty]
        simp only [NamedItems.leafTexts, NamedItems.leaves, NamedItems.texts, List.map_append,
          List.append_assoc, List.singleton_append] at early later ⊢
        rw [early, later]

end FilterItems

namespace Filter

theorem operands_ne_nil (filter : Filter) (nonempty : filter.comparators ≠ []) :
    filter.items.operands 0 ≠ [] := by
  simpa [FilterItems.operands_eq_nil_iff, FilterItems.isEmpty_iff_comparators, comparators]
    using nonempty

/-- The tokens of a filter with a leaf spell its text. -/
theorem spell_tokens (filter : Filter) (nonempty : filter.comparators ≠ []) (setting : Setting)
    (row : Nat) :
    spell (filter.leafTexts setting row) filter.tokens = filter.text setting row := by
  have spelled := FilterItems.map_spell_operands setting row filter.items {} [] []
  rw [tokens, spell_groupTokens _ _ _ (operands_ne_nil filter nonempty)]
  simpa [leafTexts, text_eq_namedItems, namedItems] using
    congrArg (joinedText filter.conjunction filter.negated) spelled

theorem places_tokens (filter : Filter) :
    places filter.tokens = List.range filter.comparators.length := by
  rw [tokens, places_groupTokens, FilterItems.places_operands, List.range_eq_range']
  rfl

end Filter

end SqlCompiler
