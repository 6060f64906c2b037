import SqlCompiler.Field
import SqlCompiler.Proofs.Placeholder.Mark

/-!
# Texts with their placeholders in sight

A written text is one string, and nothing tells a placeholder in it from other
text.  Here a text is a list of fragments instead: fixed texts, and
placeholders that know their name, their row and what they stand for.  A mark
spells the fragments as a text.  The mark is put in front of the placeholders
only, so fragments that spell a text for every mark have all its placeholders
in sight.
-/

namespace SqlCompiler

/-- What a placeholder stands for: a stored value, a compared one, or the key of a row. -/
inductive PlaceholderRole where
  | stored
  | compared
  | reported
  deriving DecidableEq, Repr

/-- A placeholder in a text; its name is without the mark, and the row is part of the name. -/
structure Placeholder where
  role : PlaceholderRole
  row : Nat
  name : String
  deriving DecidableEq, Repr

namespace Placeholder

/-- The names of those placeholders that have a role. -/
def names (role : PlaceholderRole) (list : List Placeholder) : List String :=
  (list.filter (·.role = role)).map name

theorem names_append (role : PlaceholderRole) (first second : List Placeholder) :
    names role (first ++ second) = names role first ++ names role second := by
  simp [names]

theorem names_of_role {role : PlaceholderRole} {list : List Placeholder}
    (same : ∀ inside ∈ list, inside.role = role) : names role list = list.map name := by
  rw [names, List.filter_eq_self.mpr fun inside member => decide_eq_true (same inside member)]

theorem names_of_other_role {role other : PlaceholderRole} {list : List Placeholder}
    (same : ∀ inside ∈ list, inside.role = other) (different : other ≠ role) :
    names role list = [] := by
  rw [names, List.filter_eq_nil_iff.mpr, List.map_nil]
  intro inside member
  simpa [same inside member] using different

end Placeholder

/-- A part of a text. -/
inductive Fragment where
  | fixed (text : String)
  | placeholder (placeholder : Placeholder)
  deriving DecidableEq, Repr

namespace Fragment

def spelling (mark : String) : Fragment → String
  | fixed text => text
  | placeholder inside => mark ++ inside.name

def placeholder? : Fragment → Option Placeholder
  | fixed _ => none
  | placeholder inside => some inside

@[simp]
theorem spelling_fixed (mark text : String) : (fixed text).spelling mark = text :=
  rfl

@[simp]
theorem placeholder?_fixed (text : String) : (fixed text).placeholder? = none :=
  rfl

@[simp]
theorem placeholder?_placeholder (inside : Placeholder) :
    (placeholder inside).placeholder? = some inside :=
  rfl

end Fragment

namespace Fragments

def spell (mark : String) (fragments : List Fragment) : String :=
  String.join (fragments.map (Fragment.spelling mark))

def placeholders (fragments : List Fragment) : List Placeholder :=
  fragments.filterMap Fragment.placeholder?

/-- Some texts with a fixed text between them. -/
def joined (separator : String) (parts : List (List Fragment)) : List Fragment :=
  [.fixed separator].intercalate parts

def fixed (text : String) : List Fragment :=
  [.fixed text]

@[simp]
theorem spell_nil (mark : String) : spell mark [] = "" := by
  simp [spell]

@[simp]
theorem spell_cons (mark : String) (fragment : Fragment) (fragments : List Fragment) :
    spell mark (fragment :: fragments) = fragment.spelling mark ++ spell mark fragments := by
  simp [spell]

@[simp]
theorem spell_append (mark : String) (first second : List Fragment) :
    spell mark (first ++ second) = spell mark first ++ spell mark second := by
  induction first with
  | nil => simp
  | cons fragment rest ih => simp [ih, String.append_assoc]

@[simp]
theorem spell_fixed (mark text : String) : spell mark (fixed text) = text := by
  simp [fixed]

@[simp]
theorem spell_joined (mark separator : String) (parts : List (List Fragment)) :
    spell mark (joined separator parts) = separator.intercalate (parts.map (spell mark)) := by
  induction parts with
  | nil => simp [joined]
  | cons part parts ih =>
      cases parts with
      | nil => simp [joined]
      | cons next parts =>
          rw [joined] at ih ⊢
          rw [List.intercalate_cons_cons, spell_append, spell_append, ih]
          simp

@[simp]
theorem placeholders_nil : placeholders [] = [] :=
  rfl

@[simp]
theorem placeholders_cons (fragment : Fragment) (fragments : List Fragment) :
    placeholders (fragment :: fragments) =
      fragment.placeholder?.toList ++ placeholders fragments := by
  cases fragment <;> rfl

@[simp]
theorem placeholders_append (first second : List Fragment) :
    placeholders (first ++ second) = placeholders first ++ placeholders second := by
  simp [placeholders]

@[simp]
theorem placeholders_fixed (text : String) : placeholders (fixed text) = [] :=
  rfl

@[simp]
theorem placeholders_joined (separator : String) (parts : List (List Fragment)) :
    placeholders (joined separator parts) = parts.flatMap placeholders := by
  induction parts with
  | nil => rfl
  | cons part parts ih =>
      cases parts with
      | nil => simp [joined]
      | cons next parts =>
          rw [joined] at ih ⊢
          rw [List.intercalate_cons_cons, placeholders_append, placeholders_append, ih]
          simp

end Fragments

/-- The placeholder of a column in a row. -/
def Setting.placeholder (setting : Setting) (role : PlaceholderRole) (name : String)
    (row : Nat) : Placeholder where
  role := role
  row := row
  name := withRow (setting.parameterName name) row

def Field.placeholder (field : Field) (setting : Setting) (role : PlaceholderRole)
    (row : Nat) : Placeholder :=
  setting.placeholder role field.name row

@[simp]
theorem Field.role_placeholder (field : Field) (setting : Setting) (role : PlaceholderRole)
    (row : Nat) : (field.placeholder setting role row).role = role :=
  rfl

@[simp]
theorem Field.row_placeholder (field : Field) (setting : Setting) (role : PlaceholderRole)
    (row : Nat) : (field.placeholder setting role row).row = row :=
  rfl

@[simp]
theorem Field.name_placeholder (field : Field) (setting : Setting) (role : PlaceholderRole)
    (row : Nat) :
    (field.placeholder setting role row).name = withRow (setting.parameterName field.name) row :=
  rfl

@[simp]
theorem Setting.spelling_placeholder (setting : Setting) (mark : String)
    (role : PlaceholderRole) (name : String) (row : Nat) :
    (Fragment.placeholder (setting.placeholder role name row)).spelling mark =
      (setting.withMark mark).parameter name row :=
  (setting.parameter_withMark mark name row).symm

end SqlCompiler
