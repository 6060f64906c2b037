import SqlCompiler.Filter.Naming

/-!
# The text and the parameters of a filter

A group is written in parentheses, with `NOT` in front when it is negated.  A
filter without a comparator has the empty text.  The parameters stand in the
order of the comparators, and each is named as in the text.

The text and the parameters are found on two walks over the tree.  Each walk
goes from left to right with a namer of its own, asks it for the stem of every
leaf but the literals, which bind nothing, and leaves out empty groups.
-/

namespace SqlCompiler

/-- Some conditions joined and put in parentheses; no conditions make no text. -/
def joinedText (conjunction : Conjunction) (negated : Bool) (parts : List String) : String :=
  if parts.isEmpty then ""
  else
    let body := "(" ++ (" " ++ conjunction.keyword ++ " ").intercalate parts ++ ")"
    if negated then "NOT " ++ body else body

namespace FilterItems

/-- The texts of the items that are not empty, where the namer knows the names in front. -/
def texts (setting : Setting) (row : Nat) : FilterItems → Namer → List String × Namer
  | .nil, namer => ([], namer)
  | .leaf comparator rest, namer =>
      if comparator.isLiteral then
        let (others, last) := rest.texts setting row namer
        (comparator.text setting "" :: others, last)
      else
        let (stem, namer) := namer.next (comparator.stem setting)
        let (others, last) := rest.texts setting row namer
        (comparator.text setting (withRow stem row) :: others, last)
  | .group conjunction negated items rest, namer =>
      if items.isEmpty then rest.texts setting row namer
      else
        let (inner, namer) := items.texts setting row namer
        let (others, last) := rest.texts setting row namer
        (joinedText conjunction negated inner :: others, last)

/-- The parameters of the items, where the namer knows the names in front. -/
def boundParameters (setting : Setting) (row : Nat) :
    FilterItems → Namer → List BoundParameter × Namer
  | .nil, namer => ([], namer)
  | .leaf comparator rest, namer =>
      if comparator.isLiteral then rest.boundParameters setting row namer
      else
        let (stem, namer) := namer.next (comparator.stem setting)
        let (others, last) := rest.boundParameters setting row namer
        (comparator.parameters setting (withRow stem row) ++ others, last)
  | .group _ _ items rest, namer =>
      if items.isEmpty then rest.boundParameters setting row namer
      else
        let (inner, namer) := items.boundParameters setting row namer
        let (others, last) := rest.boundParameters setting row namer
        (inner ++ others, last)

end FilterItems

namespace Filter

def text (filter : Filter) (setting : Setting) (row : Nat) : String :=
  joinedText filter.conjunction filter.negated (filter.items.texts setting row {}).1

def parameters (filter : Filter) (setting : Setting) (row : Nat) : List BoundParameter :=
  (filter.items.boundParameters setting row {}).1

/-- A filter without items has no text. -/
@[simp]
theorem text_nil (conjunction : Conjunction) (negated : Bool) (setting : Setting) (row : Nat) :
    ({ conjunction, negated, items := .nil } : Filter).text setting row = "" :=
  rfl

end Filter

end SqlCompiler
