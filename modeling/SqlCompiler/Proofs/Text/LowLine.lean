import Std.Data.String.ToNat

/-!
# Texts cut at their last low line

Parameter names are built by adding a low line and a word or a number.  What
is added holds no further low line, so it is read back as the part behind the
last one.
-/

namespace SqlCompiler

namespace Text

theorem append_cons_inj {mark : Char} {front back front' back' : List Char}
    (free : mark ∉ front) (free' : mark ∉ front')
    (equal : front ++ mark :: back = front' ++ mark :: back') :
    front = front' ∧ back = back' := by
  induction front generalizing front' with
  | nil =>
      cases front' with
      | nil => simpa using equal
      | cons c' rest' =>
          simp only [List.nil_append, List.cons_append, List.cons.injEq] at equal
          exact absurd (equal.1 ▸ List.mem_cons_self) free'
  | cons c rest ih =>
      cases front' with
      | nil =>
          simp only [List.nil_append, List.cons_append, List.cons.injEq] at equal
          exact absurd (equal.1 ▸ List.mem_cons_self) free
      | cons c' rest' =>
          simp only [List.cons_append, List.cons.injEq] at equal
          obtain ⟨rfl, equal⟩ := equal
          simp only [List.mem_cons, not_or] at free free'
          obtain ⟨rfl, rfl⟩ := ih free.2 free'.2 equal
          exact ⟨rfl, rfl⟩

/-- Texts are cut at the last low line in one way only. -/
theorem append_lowLine_inj {front back front' back' : String}
    (free : '_' ∉ back.toList) (free' : '_' ∉ back'.toList)
    (equal : front ++ "_" ++ back = front' ++ "_" ++ back') :
    front = front' ∧ back = back' := by
  have lowLine : "_".toList = ['_'] := rfl
  have reversed : back.toList.reverse ++ '_' :: front.toList.reverse =
      back'.toList.reverse ++ '_' :: front'.toList.reverse := by
    simpa [lowLine] using congrArg (fun text => text.toList.reverse) equal
  obtain ⟨backs, fronts⟩ :=
    append_cons_inj (by simpa using free) (by simpa using free') reversed
  exact ⟨String.toList_injective (List.reverse_inj.mp fronts),
    String.toList_injective (List.reverse_inj.mp backs)⟩

@[simp]
theorem lowLine_not_mem_toString (number : Nat) : '_' ∉ (toString number).toList := by
  simp [toString]

end Text

end SqlCompiler
