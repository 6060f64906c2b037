import SqlCompiler.Field

/-!
# Names of the same column

Two names denote the same column if they agree in the form in which they are
compared, so this is an equivalence of names.
-/

namespace SqlCompiler

namespace Setting

variable {setting : Setting} {first second third : String}

/-- The form in which names are compared: without quotes and in lower case. -/
def comparedName (setting : Setting) (name : String) : String :=
  Text.asciiLower (setting.unquote name)

theorem sameName_iff :
    setting.sameName first second = true ↔
      setting.comparedName first = setting.comparedName second :=
  beq_iff_eq

theorem sameName_eq_false_iff :
    setting.sameName first second = false ↔
      setting.comparedName first ≠ setting.comparedName second := by
  rw [← Bool.not_eq_true, sameName_iff]

theorem sameName_refl (setting : Setting) (name : String) :
    setting.sameName name name = true :=
  sameName_iff.mpr rfl

theorem sameName_comm (setting : Setting) (first second : String) :
    setting.sameName first second = setting.sameName second first := by
  rw [Bool.eq_iff_iff, sameName_iff, sameName_iff, eq_comm]

/-- Names of the same column are the same as the same names. -/
theorem sameName_congr_left (same : setting.sameName first second = true) (third : String) :
    setting.sameName first third = setting.sameName second third := by
  rw [Bool.eq_iff_iff, sameName_iff, sameName_iff, sameName_iff.mp same]

end Setting

/-- A field of a list has its own name. -/
theorem Field.anyNamed_of_mem {field : Field} {fields : List Field} (member : field ∈ fields)
    (setting : Setting) : anyNamed fields setting field.name = true :=
  List.any_eq_true.mpr ⟨field, member, setting.sameName_refl field.name⟩

end SqlCompiler
