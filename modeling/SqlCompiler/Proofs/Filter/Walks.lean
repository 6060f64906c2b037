import SqlCompiler.Filter.Text

/-!
# Both walks over a filter hand out the same stems

The text and the parameters of a filter are found on two walks, each with a
namer of its own.  What the namer hands out does not depend on what is done
with it, so one tree, in which every leaf knows its stem, stands for both
walks: the text and the parameters can be read off that tree.
-/

namespace SqlCompiler

theorem Comparator.parameters_of_isLiteral {comparator : Comparator}
    (literal : comparator.isLiteral = true) (setting : Setting) (stem : String) :
    comparator.parameters setting stem = [] := by
  simp [parameters, bindings, literal]

/-- The items of a group with a stem for every leaf and without empty groups. -/
inductive NamedItems where
  | nil
  | leaf (comparator : Comparator) (stem : String) (rest : NamedItems)
  | group (conjunction : Conjunction) (negated : Bool) (items rest : NamedItems)

namespace NamedItems

def texts (setting : Setting) : NamedItems → List String
  | .nil => []
  | .leaf comparator stem rest => comparator.text setting stem :: rest.texts setting
  | .group conjunction negated items rest =>
      joinedText conjunction negated (items.texts setting) :: rest.texts setting

def parameters (setting : Setting) : NamedItems → List BoundParameter
  | .nil => []
  | .leaf comparator stem rest => comparator.parameters setting stem ++ rest.parameters setting
  | .group _ _ items rest => items.parameters setting ++ rest.parameters setting

end NamedItems

namespace FilterItems

/-- Hand out stems from left to right, for the parameters of one row. -/
def named (setting : Setting) (row : Nat) : FilterItems → Namer → NamedItems × Namer
  | .nil, namer => (.nil, namer)
  | .leaf comparator rest, namer =>
      if comparator.isLiteral then
        let (others, last) := rest.named setting row namer
        (.leaf comparator "" others, last)
      else
        let (stem, namer) := namer.next (comparator.stem setting)
        let (others, last) := rest.named setting row namer
        (.leaf comparator (withRow stem row) others, last)
  | .group conjunction negated items rest, namer =>
      if items.isEmpty then rest.named setting row namer
      else
        let (inner, namer) := items.named setting row namer
        let (others, last) := rest.named setting row namer
        (.group conjunction negated inner others, last)

variable (setting : Setting) (row : Nat)

/-- The walk for the text writes the named tree and leaves the namer it leaves. -/
theorem texts_eq_named (items : FilterItems) (namer : Namer) :
    items.texts setting row namer =
      ((items.named setting row namer).1.texts setting, (items.named setting row namer).2) := by
  induction items generalizing namer with
  | nil => rfl
  | leaf comparator rest ih =>
      unfold texts named
      split <;> simp only [ih, NamedItems.texts]
  | group conjunction negated inner rest innerIH restIH =>
      unfold texts named
      split
      next => exact restIH namer
      next => simp only [innerIH, restIH, NamedItems.texts]

/-- The walk for the parameters binds the named tree and leaves the namer it leaves. -/
theorem boundParameters_eq_named (items : FilterItems) (namer : Namer) :
    items.boundParameters setting row namer =
      ((items.named setting row namer).1.parameters setting,
        (items.named setting row namer).2) := by
  induction items generalizing namer with
  | nil => rfl
  | leaf comparator rest ih =>
      unfold boundParameters named
      split
      next literal =>
        -- a literal is passed over here and is a leaf of the tree that binds nothing
        simp only [ih, NamedItems.parameters, Comparator.parameters_of_isLiteral literal,
          List.nil_append]
      next => simp only [ih, NamedItems.parameters]
  | group conjunction negated inner rest innerIH restIH =>
      unfold boundParameters named
      split
      next => exact restIH namer
      next => simp only [innerIH, restIH, NamedItems.parameters]

end FilterItems

namespace Filter

variable (filter : Filter) (setting : Setting) (row : Nat)

def namedItems : NamedItems :=
  (filter.items.named setting row {}).1

/-- The text of a filter is that of its named tree. -/
theorem text_eq_namedItems :
    filter.text setting row = joinedText filter.conjunction filter.negated
      ((filter.namedItems setting row).texts setting) := by
  rw [text, FilterItems.texts_eq_named, namedItems]

/-- The parameters of a filter are those of its named tree. -/
theorem parameters_eq_namedItems :
    filter.parameters setting row = (filter.namedItems setting row).parameters setting := by
  rw [parameters, FilterItems.boundParameters_eq_named, namedItems]

end Filter

end SqlCompiler
