import Mathlib.Data.List.Nodup
import Mathlib.Data.List.Pairwise
import SqlCompiler.Field
import SqlCompiler.Proofs.Filter.Naming
import SqlCompiler.Proofs.Text.LowLine

/-!
# When the parameters of several rows are told apart

The parameters of a row are named after the columns, and every row but the
first adds its number behind a low line.  A column name can end like that
itself: `A_1` beside `A` in a batch of two rows.  Numbers have no low line and
are printed in one way only, so this is the only way in which two rows can
share a parameter.
-/

namespace SqlCompiler

/-- The names are distinct, and none is another one with the number of a later row added. -/
structure NoRowClash (names : List String) (rows : Nat) : Prop where
  distinct : names.Nodup
  notNumbered : ∀ first ∈ names, ∀ second ∈ names, ∀ row, 1 ≤ row → row < rows →
    first ≠ second ++ "_" ++ toString row

/-- The parameters of some fields, one row after the other. -/
def Field.rowParameters (fields : List Field) (setting : Setting) (rows : Nat) : List String :=
  (List.range rows).flatMap (fun row => fields.map (fun field => field.parameter setting row))

/-- Names of two rows are equal only if the first row has no number and the name ends like one. -/
theorem withRow_eq_withRow {first second : String} {row later : Nat} (before : row < later)
    (equal : withRow first row = withRow second later) :
    first = second ++ "_" ++ toString later := by
  have numbered : withRow second later = second ++ "_" ++ toString later := by
    rw [withRow, if_neg (by omega)]
  rw [numbered] at equal
  by_cases front : row = 0
  · rwa [front, withRow_zero] at equal
  · rw [withRow, if_neg front] at equal
    have rows : toString row = toString later :=
      (Text.append_lowLine_inj (Text.lowLine_not_mem_toString row)
        (Text.lowLine_not_mem_toString later) equal).2
    exact absurd (Nat.repr_injective rows) (by omega)

theorem nodup_withRow_iff (names : List String) {rows : Nat} (positive : 0 < rows) :
    ((List.range rows).flatMap (fun row => names.map (withRow · row))).Nodup ↔
      NoRowClash names rows := by
  rw [List.nodup_flatMap]
  constructor
  · rintro ⟨each, apart⟩
    have symmetric : Std.Symm (Function.onFun List.Disjoint
        (fun row => names.map (withRow · row))) :=
      ⟨fun _ _ disjoint _ inSecond inFirst => disjoint inFirst inSecond⟩
    refine ⟨?_, ?_⟩
    · simpa using each 0 (List.mem_range.mpr positive)
    · -- A name that ends like a row is, in the first row, the parameter of that row.
      intro first firstMem second secondMem row numbered within equal
      have disjoint := apart.forall (List.mem_range.mpr positive) (List.mem_range.mpr within)
        (by omega)
      have inFront : withRow first 0 ∈ names.map (withRow · 0) := List.mem_map_of_mem firstMem
      have inRow : withRow first 0 ∈ names.map (withRow · row) := by
        refine List.mem_map.mpr ⟨second, secondMem, ?_⟩
        rw [withRow_zero, equal, withRow, if_neg (by omega)]
      exact disjoint inFront inRow
  · intro noClash
    refine ⟨fun row _ => noClash.distinct.map (withRow_injective row), ?_⟩
    refine List.pairwise_lt_range.imp_of_mem ?_
    intro row later _ within before name inRow inLater
    obtain ⟨first, firstMem, rfl⟩ := List.mem_map.mp inRow
    obtain ⟨second, secondMem, equal⟩ := List.mem_map.mp inLater
    have clash := withRow_eq_withRow before equal.symm
    exact noClash.notNumbered first firstMem second secondMem later (by omega)
      (List.mem_range.mp within) clash

theorem Field.rowParameters_eq_map (fields : List Field) (setting : Setting) (rows : Nat) :
    Field.rowParameters fields setting rows =
      ((List.range rows).flatMap (fun row =>
        (fields.map (fun field => setting.parameterName field.name)).map (withRow · row))).map
          (setting.parameterMark ++ ·) := by
  simp [Field.rowParameters, List.map_flatMap, Field.parameter, Setting.parameter,
    Function.comp_def]

/-- The parameters of several rows are distinct exactly when no name clashes with a row. -/
theorem Field.nodup_rowParameters (fields : List Field) (setting : Setting) {rows : Nat}
    (positive : 0 < rows) :
    (Field.rowParameters fields setting rows).Nodup ↔
      NoRowClash (fields.map (fun field => setting.parameterName field.name)) rows := by
  have marked : Function.Injective (setting.parameterMark ++ ·) := by
    intro first second equal
    simpa using equal
  rw [Field.rowParameters_eq_map, List.nodup_map_iff marked, nodup_withRow_iff _ positive]

end SqlCompiler
