import Mathlib.Data.List.Pairwise
import SqlCompiler.Proofs.Comparator.Form
import SqlCompiler.Proofs.Filter.Leaves
import SqlCompiler.Proofs.Text.LowLine

/-!
# When the parameters of a filter have distinct names

The leaves of a filter have distinct stems, but the endings of a range or a
list are added to a stem after it was handed out.  The name that results can
be the stem of another leaf: a column `A_Left` beside a range over `A`.  This
is the only way in which two parameters of a filter share a name.  No two
endings are confused, since each is read back as the part behind the last low
line, and a leaf with an ending never meets another one with an ending.
-/

namespace SqlCompiler

namespace Comparator

/-- What the parameters of a comparator add to its stem. -/
def endings (comparator : Comparator) : List String :=
  comparator.bindings.map Prod.fst

/-- The endings of ranges and lists. -/
inductive IsEnding : String → Prop where
  | left : IsEnding "_Left"
  | right : IsEnding "_Right"
  | element (place : Nat) : IsEnding ("_In_" ++ toString place)

/-- An ending is a low line and a word or a number, perhaps behind another word. -/
theorem IsEnding.exists_back {ending : String} (isEnding : IsEnding ending) :
    ∃ front back, ending = front ++ "_" ++ back ∧ '_' ∉ back.toList ∧
      ((front = "" ∧ (back = "Left" ∨ back = "Right")) ∨
        (front = "_In" ∧ ∃ place : Nat, back = toString place)) := by
  cases isEnding with
  | left => exact ⟨"", "Left", rfl, by decide, .inl ⟨rfl, .inl rfl⟩⟩
  | right => exact ⟨"", "Right", rfl, by decide, .inl ⟨rfl, .inr rfl⟩⟩
  | element place =>
      exact ⟨"_In", toString place, rfl, Text.lowLine_not_mem_toString place,
        .inr ⟨rfl, place, rfl⟩⟩

theorem toString_ne_word (place : Nat) :
    ¬ (toString place = "Left" ∨ toString place = "Right") := by
  have digits : ∀ c ∈ (toString place).toList, c.isDigit = true := by
    intro c member
    have digit : c ∈ Nat.toDigits 10 place := by simpa [toString] using member
    exact Nat.isDigit_of_mem_toDigits (by decide) (by decide) digit
  rintro (equal | equal)
  · exact absurd (digits 'L' (by rw [equal]; decide)) (by decide)
  · exact absurd (digits 'R' (by rw [equal]; decide)) (by decide)

/-- Stems with endings are taken apart in one way only. -/
theorem IsEnding.append_inj {first second stem stem' : String}
    (firstEnding : IsEnding first) (secondEnding : IsEnding second)
    (equal : stem ++ first = stem' ++ second) : stem = stem' ∧ first = second := by
  obtain ⟨front, back, rfl, free, shape⟩ := firstEnding.exists_back
  obtain ⟨front', back', rfl, free', shape'⟩ := secondEnding.exists_back
  have cut : stem ++ front = stem' ++ front' ∧ back = back' := by
    apply Text.append_lowLine_inj free free'
    simpa only [String.append_assoc] using equal
  obtain ⟨fronts, rfl⟩ := cut
  have sameFront : front = front' := by
    rcases shape with ⟨rfl, word⟩ | ⟨rfl, place, number⟩ <;>
      rcases shape' with ⟨rfl, word'⟩ | ⟨rfl, place', number'⟩
    · rfl
    · exact absurd (number' ▸ word) (toString_ne_word place')
    · exact absurd (number ▸ word') (toString_ne_word place)
    · rfl
  subst sameFront
  exact ⟨by simpa using fronts, rfl⟩

theorem isEnding_of_mem_rangeEndings {ending : String} (member : ending ∈ rangeEndings) :
    IsEnding ending := by
  simp only [rangeEndings, List.mem_cons, List.not_mem_nil, or_false] at member
  obtain rfl | rfl := member
  · exact .left
  · exact .right

theorem isEnding_of_mem_listEndings {ending : String} {count : Nat}
    (member : ending ∈ listEndings count) : IsEnding ending := by
  obtain ⟨place, -, rfl⟩ := List.mem_map.mp member
  exact .element place

theorem nodup_listEndings (count : Nat) : (listEndings count).Nodup := by
  refine List.nodup_range.map ?_
  intro first second equal
  simp only [toString, String.append_right_inj] at equal
  exact Nat.repr_injective equal

/-- A comparator binds nothing, or one parameter named as its stem, or several with endings. -/
theorem endings_cases (comparator : Comparator) :
    comparator.endings = [] ∨ comparator.endings = [""] ∨
      (comparator.endings.Nodup ∧ ∀ ending ∈ comparator.endings, IsEnding ending) := by
  unfold endings bindings
  split
  next => exact .inl rfl
  next =>
    split
    next =>
      -- A value that does not fit a range cuts its endings short.
      have front : ((rangeEndings.zip comparator.value.items).map Prod.fst).Sublist
          rangeEndings := by
        rcases comparator.value.items with _ | ⟨first, _ | ⟨last, rest⟩⟩ <;>
          simp [rangeEndings]
      exact .inr (.inr ⟨front.nodup (by decide), fun ending member =>
        isEnding_of_mem_rangeEndings (front.subset member)⟩)
    next =>
      split
      next =>
        rw [List.map_fst_zip (by simp)]
        exact .inr (.inr ⟨nodup_listEndings _, fun ending member =>
          isEnding_of_mem_listEndings member⟩)
      next => exact .inr (.inl rfl)

theorem mem_endings_cases {comparator : Comparator} {ending : String}
    (member : ending ∈ comparator.endings) :
    (comparator.endings = [""] ∧ ending = "") ∨ IsEnding ending := by
  rcases comparator.endings_cases with none | one | ⟨-, areEndings⟩
  · simp [none] at member
  · exact .inl ⟨one, by simpa [one] using member⟩
  · exact .inr (areEndings ending member)

theorem IsEnding.ne_empty {ending : String} (isEnding : IsEnding ending) : ending ≠ "" := by
  obtain ⟨front, back, rfl, -⟩ := isEnding.exists_back
  simp

theorem isLiteral_of_mem_endings {comparator : Comparator} {ending : String}
    (member : ending ∈ comparator.endings) : comparator.isLiteral = false := by
  by_contra literal
  simp [endings, bindings, literal] at member

end Comparator

/--
The first leaf binds one parameter, whose stem is the stem of the second leaf
with one of the endings that the second leaf adds to it.
-/
def StemsClash (single several : Comparator × String) : Prop :=
  single.1.endings = [""] ∧
    ∃ ending ∈ several.1.endings, ending ≠ "" ∧ single.2 = several.2 ++ ending

def leafNames (setting : Setting) (leaf : Comparator × String) : List String :=
  leaf.1.endings.map (setting.parameterMark ++ leaf.2 ++ ·)

theorem nodup_leafNames (setting : Setting) (leaf : Comparator × String) :
    (leafNames setting leaf).Nodup := by
  have distinct : leaf.1.endings.Nodup := by
    rcases leaf.1.endings_cases with none | one | ⟨distinct, -⟩
    · simp [none]
    · simp [one]
    · exact distinct
  exact distinct.map (fun first second equal => by simpa using equal)

theorem not_disjoint_of_stemsClash (setting : Setting) {single several : Comparator × String}
    (clash : StemsClash single several) :
    ¬ (leafNames setting single).Disjoint (leafNames setting several) := by
  obtain ⟨one, ending, member, -, stem⟩ := clash
  intro disjoint
  have inSingle : setting.parameterMark ++ single.2 ∈ leafNames setting single := by
    simp [leafNames, one]
  have inSeveral : setting.parameterMark ++ single.2 ∈ leafNames setting several :=
    List.mem_map.mpr ⟨ending, member, by rw [stem, String.append_assoc]⟩
  exact disjoint inSingle inSeveral

/-- Leaves with distinct stems share a name only if one of them clashes with the other. -/
theorem disjoint_of_not_stemsClash (setting : Setting) {first second : Comparator × String}
    (stems : first.1.isLiteral = false → second.1.isLiteral = false → first.2 ≠ second.2)
    (noClash : ¬ StemsClash first second) (noClash' : ¬ StemsClash second first) :
    (leafNames setting first).Disjoint (leafNames setting second) := by
  intro name inFirst inSecond
  obtain ⟨ending, member, rfl⟩ := List.mem_map.mp inFirst
  obtain ⟨ending', member', equal⟩ := List.mem_map.mp inSecond
  have same : first.2 ++ ending = second.2 ++ ending' := by
    simpa only [String.append_assoc, String.append_right_inj] using equal.symm
  have stemsNe : first.2 ≠ second.2 :=
    stems (Comparator.isLiteral_of_mem_endings member) (Comparator.isLiteral_of_mem_endings member')
  rcases Comparator.mem_endings_cases member with ⟨one, rfl⟩ | isEnding <;>
    rcases Comparator.mem_endings_cases member' with ⟨one', rfl⟩ | isEnding'
  · exact stemsNe (by simpa using same)
  · exact noClash ⟨one, ending', member', isEnding'.ne_empty, by simpa using same⟩
  · exact noClash' ⟨one', ending, member, isEnding.ne_empty, by simpa using same.symm⟩
  · exact stemsNe (isEnding.append_inj isEnding' same).1

namespace Filter

theorem map_name_parameters (filter : Filter) (setting : Setting) (row : Nat) :
    (filter.parameters setting row).map BoundParameter.name =
      (filter.leaves setting row).flatMap (leafNames setting) := by
  rw [parameters_eq_flatMap_leaves, List.map_flatMap]
  simp only [Comparator.map_name_parameters]
  rfl

/--
The parameters of a filter have distinct names exactly when no leaf with one
parameter was handed the stem of a range or a list with an ending added.
-/
theorem nodup_names_iff (filter : Filter) (setting : Setting) (row : Nat) :
    ((filter.parameters setting row).map BoundParameter.name).Nodup ↔
      ∀ single ∈ filter.leaves setting row, ∀ several ∈ filter.leaves setting row,
        ¬ StemsClash single several := by
  rw [map_name_parameters, List.nodup_flatMap]
  constructor
  · intro ⟨_, disjoint⟩ single singleMem several severalMem clash
    have different : single ≠ several := by
      rintro rfl
      obtain ⟨one, ending, member, notEmpty, -⟩ := clash
      simp [one] at member
      exact notEmpty member
    have symmetric : Std.Symm (Function.onFun List.Disjoint (leafNames setting)) :=
      ⟨fun _ _ disjoint _ inSecond inFirst => disjoint inFirst inSecond⟩
    exact not_disjoint_of_stemsClash setting clash
      (disjoint.forall singleMem severalMem different)
  · intro noClash
    refine ⟨fun leaf _ => nodup_leafNames setting leaf, ?_⟩
    refine (filter.pairwise_stem_ne_leaves setting row).imp_of_mem ?_
    intro first second firstMem secondMem stems
    exact disjoint_of_not_stemsClash setting stems
      (noClash first firstMem second secondMem) (noClash second secondMem first firstMem)

def rangeBesideColumn : Filter where
  items :=
    .leaf { field := { name := "A" }, comparison := .between,
            value := .list [.int 1, .int 2], kind := .plain }
      (.leaf { field := { name := "A_Left" }, comparison := .equal,
               value := .int 3, kind := .plain } .nil)

/-- The lower end of the range and the column share their parameter. -/
theorem not_nodup_names_rangeBesideColumn :
    ¬ ((rangeBesideColumn.parameters .sqlServer 0).map BoundParameter.name).Nodup := by
  decide +kernel

end Filter

end SqlCompiler
