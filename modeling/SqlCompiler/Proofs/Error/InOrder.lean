import Mathlib.Data.List.Forall2
import SqlCompiler.Error

/-!
# Steps in order

Items that are read one by one are accepted if each of them is, and then in
their order.  Otherwise they are refused for the first item that is refused,
and nothing behind it matters.
-/

namespace SqlCompiler

/-- There is a list of partners as soon as each item has one. -/
theorem exists_forall₂_iff {α β : Type} {related : α → β → Prop} {items : List α} :
    (∃ partners, List.Forall₂ related items partners) ↔
      ∀ item ∈ items, ∃ partner, related item partner := by
  induction items with
  | nil => simp
  | cons item rest ih =>
      rw [List.forall_mem_cons, ← ih]
      constructor
      · rintro ⟨_, _ | ⟨first, others⟩⟩
        exact ⟨⟨_, first⟩, _, others⟩
      · rintro ⟨⟨partner, first⟩, partners, others⟩
        exact ⟨partner :: partners, .cons first others⟩

variable {Item Result Problem : Type}

/-- Items are read one by one, each on its own. -/
theorem mapM_eq_ok_iff {read : Item → Except Problem Result} {items : List Item}
    {results : List Result} :
    items.mapM read = .ok results ↔
      List.Forall₂ (fun item result => read item = .ok result) items results := by
  induction items generalizing results with
  | nil =>
      rw [List.mapM_nil, List.forall₂_nil_left_iff]
      exact ⟨fun same => (Except.ok.inj same).symm, fun same => congrArg Except.ok same.symm⟩
  | cons item rest ih =>
      rw [List.mapM_cons, List.forall₂_cons_left_iff, bind_eq_ok_iff]
      constructor
      · rintro ⟨result, first, behind⟩
        obtain ⟨others, rest, same⟩ := bind_eq_ok_iff.mp behind
        cases same
        exact ⟨result, others, first, ih.mp rest, rfl⟩
      · rintro ⟨result, others, first, rest, rfl⟩
        exact ⟨result, first, bind_eq_ok_iff.mpr ⟨others, ih.mpr rest, rfl⟩⟩

def refusal? : Except Problem Result → Option Problem
  | .error problem => some problem
  | .ok _ => none

theorem refusal?_eq_some_iff {step : Except Problem Result} {problem : Problem} :
    refusal? step = some problem ↔ step = .error problem := by
  cases step <;> simp [refusal?]

theorem refusal?_eq_none_iff {step : Except Problem Result} :
    refusal? step = none ↔ ∃ result, step = .ok result := by
  cases step <;> simp [refusal?]

/-- Items that are read one by one are refused for the first one that is refused. -/
theorem refusal?_mapM (read : Item → Except Problem Result) (items : List Item) :
    refusal? (items.mapM read) = items.findSome? (fun item => refusal? (read item)) := by
  induction items with
  | nil => rfl
  | cons item rest ih =>
      rw [List.mapM_cons, List.findSome?_cons, ← ih]
      cases read item with
      | error problem => rfl
      | ok result => cases rest.mapM read <;> rfl

/-- The items in front of the one that is refused are all accepted. -/
theorem mapM_eq_error_iff {read : Item → Except Problem Result} {items : List Item}
    {problem : Problem} :
    items.mapM read = .error problem ↔
      ∃ before item after, items = before ++ item :: after ∧ read item = .error problem ∧
        ∀ earlier ∈ before, ∃ result, read earlier = .ok result := by
  rw [← refusal?_eq_some_iff, refusal?_mapM, List.findSome?_eq_some_iff]
  simp only [refusal?_eq_some_iff, refusal?_eq_none_iff]

end SqlCompiler
