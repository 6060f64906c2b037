import SqlCompiler.Proofs.Filter.Leaves
import SqlCompiler.Proofs.Placeholder.Fragment

/-!
# The placeholders of a filter

The fragments of a filter spell its text for every mark.  Its placeholders are
those of its leaves from left to right, where a leaf writes its stem with the
endings that its comparison and its value ask for.
-/

namespace SqlCompiler

namespace Fragments

/-- Some conditions joined and put in parentheses. -/
def group (conjunction : Conjunction) (negated : Bool) (parts : List (List Fragment)) :
    List Fragment :=
  if parts.isEmpty then []
  else
    let body := fixed "(" ++ joined (" " ++ conjunction.keyword ++ " ") parts ++ fixed ")"
    if negated then fixed "NOT " ++ body else body

theorem spell_group (mark : String) (conjunction : Conjunction) (negated : Bool)
    (parts : List (List Fragment)) :
    spell mark (group conjunction negated parts) =
      joinedText conjunction negated (parts.map (spell mark)) := by
  unfold group joinedText
  cases parts with
  | nil => simp
  | cons part parts => cases negated <;> simp [String.append_assoc]

theorem placeholders_group (conjunction : Conjunction) (negated : Bool)
    (parts : List (List Fragment)) :
    placeholders (group conjunction negated parts) = parts.flatMap placeholders := by
  unfold group
  cases parts with
  | nil => rfl
  | cons part parts => cases negated <;> simp

end Fragments

open Fragments

namespace Comparator

/-- The endings of the placeholders in the text of a comparator. -/
def writtenEndings (comparator : Comparator) : List String :=
  if comparator.isLiteral || comparator.checksNull then []
  else if comparator.comparison.isRange then rangeEndings
  else if comparator.comparison.isList then listEndings comparator.value.items.length
  else [""]

def placeholder (stem : String) (row : Nat) (ending : String) : Placeholder where
  role := .compared
  row := row
  name := stem ++ ending

def fragments (comparator : Comparator) (setting : Setting) (row : Nat) (stem : String) :
    List Fragment :=
  match comparator.kind with
  | .literal text => fixed text
  | _ =>
      let column := comparator.columnText setting
      let token := comparator.comparison.token
      let parameter (ending : String) : List Fragment :=
        [.placeholder (placeholder stem row ending)]
      if comparator.checksNull then
        fixed (column ++ " " ++ nullTest comparator.comparison)
      else if comparator.comparison.isRange then
        fixed (column ++ " " ++ token ++ " ") ++ joined " AND " (rangeEndings.map parameter)
      else if comparator.comparison.isList then
        match listEndings comparator.value.items.length with
        | [] => fixed (emptyListTest comparator.comparison)
        | endings =>
            fixed (column ++ " " ++ token ++ " (") ++ joined ", " (endings.map parameter) ++
              fixed ")"
      else
        fixed (column ++ " " ++ token ++ " ") ++ parameter ""

theorem spell_fragments (comparator : Comparator) (setting : Setting) (row : Nat)
    (stem mark : String) :
    spell mark (comparator.fragments setting row stem) =
      comparator.text (setting.withMark mark) stem := by
  have parameter (ending : String) :
      spell mark [.placeholder (placeholder stem row ending)] = mark ++ stem ++ ending := by
    simp [Fragment.spelling, placeholder, String.append_assoc]
  cases kind : comparator.kind with
  | literal text => simp [fragments, Comparator.text, kind]
  | _ =>
      simp only [fragments, Comparator.text, kind, Comparator.columnText_withMark,
        Setting.parameterMark_withMark]
      cases null : comparator.checksNull with
      | true => simp
      | false =>
          cases range : comparator.comparison.isRange with
          | true => simp [parameter, Function.comp_def]
          | false =>
              cases list : comparator.comparison.isList with
              | false => simp [parameter]
              | true =>
                  cases endings : listEndings comparator.value.items.length with
                  | nil => simp
                  | cons ending endings =>
                      simp [parameter, Function.comp_def, String.append_assoc]

theorem placeholders_fragments (comparator : Comparator) (setting : Setting) (row : Nat)
    (stem : String) :
    placeholders (comparator.fragments setting row stem) =
      comparator.writtenEndings.map (placeholder stem row) := by
  cases kind : comparator.kind with
  | literal text => simp [fragments, writtenEndings, isLiteral, kind]
  | _ =>
      simp only [fragments, writtenEndings, isLiteral, kind, Bool.false_or]
      cases null : comparator.checksNull with
      | true => simp
      | false =>
          cases range : comparator.comparison.isRange with
          | true => simp [List.flatMap_map, ← List.map_eq_flatMap]
          | false =>
              cases list : comparator.comparison.isList with
              | false => simp
              | true =>
                  cases endings : listEndings comparator.value.items.length with
                  | nil => simp
                  | cons ending endings => simp [List.flatMap_map, ← List.map_eq_flatMap]

end Comparator

namespace NamedItems

def fragments (setting : Setting) (row : Nat) : NamedItems → List (List Fragment)
  | .nil => []
  | .leaf comparator stem rest =>
      comparator.fragments setting row stem :: rest.fragments setting row
  | .group conjunction negated items rest =>
      Fragments.group conjunction negated (items.fragments setting row) ::
        rest.fragments setting row

theorem map_spell_fragments (setting : Setting) (row : Nat) (mark : String)
    (items : NamedItems) :
    (items.fragments setting row).map (spell mark) = items.texts (setting.withMark mark) := by
  induction items with
  | nil => rfl
  | leaf comparator stem rest ih =>
      simp [fragments, texts, ih, Comparator.spell_fragments]
  | group conjunction negated inner rest innerIH restIH =>
      simp [fragments, texts, innerIH, restIH, spell_group]

theorem flatMap_placeholders_fragments (setting : Setting) (row : Nat) (items : NamedItems) :
    (items.fragments setting row).flatMap placeholders =
      items.leaves.flatMap (fun leaf =>
        leaf.1.writtenEndings.map (Comparator.placeholder leaf.2 row)) := by
  induction items with
  | nil => rfl
  | leaf comparator stem rest ih =>
      simp [fragments, leaves, ih, Comparator.placeholders_fragments]
  | group conjunction negated inner rest innerIH restIH =>
      simp [fragments, leaves, innerIH, restIH, placeholders_group]

end NamedItems

namespace Filter

def fragments (filter : Filter) (setting : Setting) (row : Nat) : List Fragment :=
  Fragments.group filter.conjunction filter.negated
    ((filter.namedItems setting row).fragments setting row)

/-- The fragments of a filter spell its text for every mark. -/
@[simp]
theorem spell_fragments (filter : Filter) (setting : Setting) (row : Nat) (mark : String) :
    spell mark (filter.fragments setting row) = filter.text (setting.withMark mark) row := by
  rw [fragments, spell_group, NamedItems.map_spell_fragments]
  simp [text_eq_namedItems, namedItems]

/-- The placeholders of a filter are those of its leaves, from left to right. -/
theorem placeholders_fragments (filter : Filter) (setting : Setting) (row : Nat) :
    placeholders (filter.fragments setting row) =
      (filter.leaves setting row).flatMap (fun leaf =>
        leaf.1.writtenEndings.map (Comparator.placeholder leaf.2 row)) := by
  rw [fragments, placeholders_group, NamedItems.flatMap_placeholders_fragments]
  rfl

def placeholderNames (filter : Filter) (setting : Setting) (row : Nat) : List String :=
  (Fragments.placeholders (filter.fragments setting row)).map Placeholder.name

theorem placeholderNames_eq (filter : Filter) (setting : Setting) (row : Nat) :
    filter.placeholderNames setting row =
      (filter.leaves setting row).flatMap (fun leaf =>
        leaf.1.writtenEndings.map (leaf.2 ++ ·)) := by
  rw [placeholderNames, placeholders_fragments, List.map_flatMap]
  simp only [List.map_map]
  rfl

theorem role_of_mem_fragments {filter : Filter} {setting : Setting} {row : Nat}
    {inside : Placeholder} (member : inside ∈ placeholders (filter.fragments setting row)) :
    inside.role = .compared := by
  rw [placeholders_fragments] at member
  obtain ⟨leaf, -, written⟩ := List.mem_flatMap.mp member
  obtain ⟨ending, -, rfl⟩ := List.mem_map.mp written
  rfl

end Filter

end SqlCompiler
