import Mathlib.Data.List.Basic
import Mathlib.Data.List.Induction
import SqlCompiler.Json.Basic

/-!
# Objects as maps

An object that is read as a map has every key once.  Its keys stand where they
stood first among the members that were written, and each of them has the value
that was written last.
-/

namespace SqlCompiler

namespace Json

variable {members : List (String × Json)} {key other : String} {value : Json}

theorem keys_insertMember_of_mem (known : key ∈ members.map Prod.fst) :
    (insertMember key value members).map Prod.fst = members.map Prod.fst := by
  induction members with
  | nil => cases known
  | cons first rest ih =>
      by_cases same : first.1 = key
      · rw [insertMember, if_pos same, List.map_cons, List.map_cons]
      · have behind : key ∈ rest.map Prod.fst :=
          (List.mem_cons.mp known).resolve_left (Ne.symm same)
        rw [insertMember, if_neg same, List.map_cons, List.map_cons, ih behind]

theorem insertMember_of_not_mem (unknown : key ∉ members.map Prod.fst) :
    insertMember key value members = members ++ [(key, value)] := by
  induction members with
  | nil => rfl
  | cons first rest ih =>
      obtain ⟨different, behind⟩ := not_or.mp (mt List.mem_cons.mpr unknown)
      rw [insertMember, if_neg (Ne.symm different), ih behind, List.cons_append]

theorem member?_cons (first : String × Json) (rest : List (String × Json)) (key : String) :
    (object (first :: rest)).member? key =
      if first.1 = key then some first.2 else (object rest).member? key := by
  by_cases same : first.1 = key <;> simp [member?, same]

theorem member?_insertMember_of_ne (different : other ≠ key) :
    (object (insertMember key value members)).member? other = (object members).member? other := by
  induction members with
  | nil => rw [insertMember, member?_cons, if_neg (Ne.symm different)]
  | cons first rest ih =>
      by_cases same : first.1 = key
      · have passed : first.1 ≠ other := same ▸ Ne.symm different
        rw [insertMember, if_pos same, member?_cons, member?_cons, if_neg passed, if_neg passed]
      · rw [insertMember, if_neg same, member?_cons, member?_cons, ih]

theorem uniqueMembers_concat (members : List (String × Json)) (member : String × Json) :
    uniqueMembers (members ++ [member]) =
      insertMember member.1 member.2 (uniqueMembers members) := by
  rw [uniqueMembers, List.foldl_concat]
  rfl

/-- Every key stands where it stood first. -/
theorem keys_uniqueMembers (members : List (String × Json)) :
    (uniqueMembers members).map Prod.fst = (members.map Prod.fst).eraseDups := by
  induction members using List.reverseRecOn with
  | nil => rfl
  | append_singleton members member ih =>
      rw [uniqueMembers_concat, List.map_append, List.eraseDups_append]
      by_cases known : member.1 ∈ members.map Prod.fst
      · have kept : member.1 ∈ (uniqueMembers members).map Prod.fst := by
          rwa [ih, List.mem_eraseDups]
        rw [keys_insertMember_of_mem kept, ih]
        simp [List.removeAll, known]
      · have fresh : member.1 ∉ (uniqueMembers members).map Prod.fst := by
          rwa [ih, List.mem_eraseDups]
        rw [insertMember_of_not_mem fresh, List.map_append, ih]
        simp [List.removeAll, known, List.eraseDups_cons]

/-- Every key has the value that was written last. -/
theorem member?_uniqueMembers (members : List (String × Json)) (key : String) :
    (object (uniqueMembers members)).member? key = (object members.reverse).member? key := by
  induction members using List.reverseRecOn with
  | nil => rfl
  | append_singleton members member ih =>
      rw [uniqueMembers_concat, List.reverse_concat, member?_cons]
      by_cases same : member.1 = key
      · rw [if_pos same, ← same, member?_insertMember]
      · rw [if_neg same, member?_insertMember_of_ne (Ne.symm same), ih]

theorem member?_map (change : Json → Json) (members : List (String × Json)) (key : String) :
    (object (members.map (fun member => (member.1, change member.2)))).member? key =
      ((object members).member? key).map change := by
  induction members with
  | nil => rfl
  | cons first rest ih =>
      rw [List.map_cons, member?_cons, member?_cons, ih]
      split <;> rfl

theorem membersWithUniqueKeys_eq_map (members : List (String × Json)) :
    membersWithUniqueKeys members =
      members.map (fun member => (member.1, member.2.withUniqueKeys)) := by
  induction members with
  | nil => rfl
  | cons first rest ih => rw [membersWithUniqueKeys, ih, List.map_cons]

/-- A map lists the keys of an object by their first members, with their last values. -/
theorem withUniqueKeys_object (written : List (String × Json)) :
    ∃ listed, (object written).withUniqueKeys = .object listed ∧
      listed.map Prod.fst = (written.map Prod.fst).eraseDups ∧
      ∀ key, (object listed).member? key =
        ((object written.reverse).member? key).map withUniqueKeys := by
  refine ⟨uniqueMembers (membersWithUniqueKeys written), by rw [withUniqueKeys], ?_, fun key => ?_⟩
  · rw [keys_uniqueMembers, membersWithUniqueKeys_eq_map, List.map_map]
    rfl
  · rw [member?_uniqueMembers, membersWithUniqueKeys_eq_map, ← List.map_reverse, member?_map]

end Json

end SqlCompiler
