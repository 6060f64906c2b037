import SqlCompiler.Proofs.Filter.Leaves

/-!
# What a namer answers to a sequence of calls

A namer is called once for every leaf.  A stem that no earlier call handed out
is handed out as it is.  For any other one the namer searches upwards for a
number, starting behind the last number that it used for this stem, until the
numbered stem is a name that was not handed out.  Nothing in the search bounds
the numbers; it ends because distinct numbers make distinct names, and there
are only as many names handed out as there were calls.

Numbered stems and plain stems of other columns share one set of names, and
each stem has a last number of its own.  The two are linked by an invariant:
whatever number a call used for a stem is at most the last number of the stem.
-/

namespace SqlCompiler

namespace Namer

/--
The search from a number upwards ends at a number after so many trials.

Each trial looks whether the numbered stem is taken, and there is no bound on
the number of trials.
-/
inductive SearchEnds (taken : List String) (stem : String) :
    (number found trials : Nat) → Prop where
  | free {number : Nat} (free : numbered stem number ∉ taken) :
      SearchEnds taken stem number number 1
  | next {number found trials : Nat} (occupied : numbered stem number ∈ taken)
      (later : SearchEnds taken stem (number + 1) found trials) :
      SearchEnds taken stem number found (trials + 1)

/-- A call of a namer: the stem it was asked for and the name it handed out. -/
structure Call where
  stem : String
  name : String
  deriving DecidableEq

/-- The calls for some stems, one after the other. -/
def calls : List String → Namer → List Call
  | [], _ => []
  | stem :: stems, namer => ⟨stem, (namer.next stem).1⟩ :: calls stems (namer.next stem).2

/-- The greatest number that earlier calls used for a stem, or zero. -/
structure LastUsed (earlier : List Call) (stem : String) (last : Nat) : Prop where
  used : last = 0 ∨ ⟨stem, numbered stem last⟩ ∈ earlier
  greatest : ∀ number, ⟨stem, numbered stem number⟩ ∈ earlier → number ≤ last

/-- What a call hands out after some earlier calls. -/
structure Answers (earlier : List Call) (call : Call) : Prop where
  fresh : ∀ other ∈ earlier, other.name ≠ call.name
  form : call.name = call.stem ∨ ∃ number, 1 ≤ number ∧ call.name = numbered call.stem number
  plain_iff : call.name = call.stem ↔ ∀ other ∈ earlier, other.name ≠ call.stem
  increases : ∀ smaller number, ⟨call.stem, numbered call.stem smaller⟩ ∈ earlier →
    call.name = numbered call.stem number → smaller < number
  search : call.name ≠ call.stem → ∃ last number trials,
    LastUsed earlier call.stem last ∧
      SearchEnds (earlier.map Call.name) call.stem (last + 1) number trials ∧
      trials ≤ earlier.length + 1 ∧ call.name = numbered call.stem number

theorem numbered_ne (stem : String) (number : Nat) : numbered stem number ≠ stem := by
  intro same
  have lengths := congrArg String.length same
  have mark : "_".length = 1 := rfl
  simp only [numbered, String.length_append] at lengths
  omega

theorem freeNumber_le (taken : List String) (stem : String) (number trials : Nat) :
    freeNumber taken stem number trials ≤ number + trials := by
  induction trials generalizing number with
  | zero => exact Nat.le_refl _
  | succ trials ih =>
      unfold freeNumber
      split
      · have later := ih (number + 1)
        omega
      · omega

theorem le_freeNumber (taken : List String) (stem : String) (number trials : Nat) :
    number ≤ freeNumber taken stem number trials := by
  induction trials generalizing number with
  | zero => exact Nat.le_refl _
  | succ trials ih =>
      unfold freeNumber
      split
      · exact Nat.le_trans (Nat.le_succ number) (ih (number + 1))
      · exact Nat.le_refl _

/-- A search goes up to the first number whose name is free. -/
theorem searchEnds_of_free {taken : List String} {stem : String} {found : Nat}
    (free : numbered stem found ∉ taken) (steps : Nat) :
    ∀ number, number + steps = found →
      (∀ other, number ≤ other → other < found → numbered stem other ∈ taken) →
      SearchEnds taken stem number found (steps + 1) := by
  induction steps with
  | zero =>
      rintro number rfl -
      exact .free free
  | succ steps ih =>
      intro number last occupied
      refine .next (occupied number (Nat.le_refl _) (by omega)) ?_
      exact ih (number + 1) (by omega) fun other lower => occupied other (by omega)

/-- The search for a free number ends after at most one more trial than there are names. -/
theorem searchEnds_freeNumber (taken : List String) (stem : String) (number : Nat) :
    ∃ trials ≤ taken.length + 1,
      SearchEnds taken stem number (freeNumber taken stem number taken.length) trials := by
  have lower := le_freeNumber taken stem number taken.length
  have upper := freeNumber_le taken stem number taken.length
  refine ⟨freeNumber taken stem number taken.length - number + 1, by omega, ?_⟩
  exact searchEnds_of_free (numbered_freeNumber_not_mem taken stem number) _ number (by omega)
    fun other least below => numbered_mem_of_lt_freeNumber least below

theorem SearchEnds.congr {taken others : List String} {stem : String} {number found trials : Nat}
    (same : ∀ name, name ∈ taken ↔ name ∈ others)
    (ends : SearchEnds taken stem number found trials) :
    SearchEnds others stem number found trials := by
  induction ends with
  | free free => exact .free (mt (same _).mpr free)
  | next occupied _ ih => exact .next ((same _).mp occupied) ih

/-- What a namer knows of the calls so far. -/
structure Tracks (namer : Namer) (earlier : List Call) : Prop where
  taken : namer.taken = (earlier.map Call.name).reverse
  lastUsed : ∀ stem, LastUsed earlier stem (namer.lastNumber stem)

theorem tracks_empty : Tracks {} [] where
  taken := rfl
  lastUsed stem := ⟨.inl rfl, by simp⟩

theorem next_of_taken {namer : Namer} {stem : String} (taken : stem ∈ namer.taken) :
    ∃ number, (namer.next stem).1 = numbered stem number ∧
      (namer.next stem).2.numbers = (stem, number) :: namer.numbers ∧
      ∃ trials ≤ namer.taken.length + 1,
        SearchEnds namer.taken stem (namer.lastNumber stem + 1) number trials := by
  have search := searchEnds_freeNumber namer.taken stem (namer.lastNumber stem + 1)
  refine ⟨_, ?_, ?_, search⟩ <;> simp [next, taken]

theorem lastNumber_cons (taken : List String) (numbers : List (String × Nat))
    (stem other : String) (number : Nat) :
    lastNumber { taken, numbers := (stem, number) :: numbers } other =
      if stem = other then number else lastNumber { taken, numbers } other := by
  by_cases same : stem = other <;> simp [lastNumber, same]

theorem SearchEnds.le {taken : List String} {stem : String} {number found trials : Nat}
    (ends : SearchEnds taken stem number found trials) : number ≤ found := by
  induction ends with
  | free free => exact Nat.le_refl _
  | next occupied _ ih => exact Nat.le_of_succ_le ih

/-- A call that uses no number for a stem leaves its last number. -/
theorem LastUsed.append {earlier : List Call} {stem : String} {last : Nat} {call : Call}
    (lastUsed : LastUsed earlier stem last)
    (unused : ∀ number, call ≠ ⟨stem, numbered stem number⟩) :
    LastUsed (earlier ++ [call]) stem last where
  used := lastUsed.used.imp_right (List.mem_append_left [call])
  greatest := by
    intro number member
    rcases List.mem_append.mp member with before | now
    · exact lastUsed.greatest number before
    · exact absurd (List.mem_singleton.mp now).symm (unused number)

/-- A call that uses a greater number makes it the last number of its stem. -/
theorem LastUsed.append_numbered {earlier : List Call} {stem : String} {last number : Nat}
    (lastUsed : LastUsed earlier stem last) (above : last < number) :
    LastUsed (earlier ++ [⟨stem, numbered stem number⟩]) stem number where
  used := .inr (List.mem_append_right earlier (List.mem_singleton.mpr rfl))
  greatest := by
    intro other member
    rcases List.mem_append.mp member with before | now
    · exact Nat.le_trans (lastUsed.greatest other before) (Nat.le_of_lt above)
    · have same : numbered stem other = numbered stem number :=
        congrArg Call.name (List.mem_singleton.mp now)
      exact Nat.le_of_eq (numbered_injective stem same)

section Step

variable {namer : Namer} {earlier : List Call} (tracks : namer.Tracks earlier) (stem : String)
include tracks

theorem Tracks.mem_taken_iff (name : String) :
    name ∈ namer.taken ↔ ∃ other ∈ earlier, other.name = name := by
  simp [tracks.taken]

/-- What a call hands out is related to the earlier calls that its namer tracks. -/
theorem Tracks.answers : Answers earlier ⟨stem, (namer.next stem).1⟩ := by
  have fresh : ∀ other ∈ earlier, other.name ≠ (namer.next stem).1 := by
    intro other member same
    exact namer.next_fst_not_mem stem ((tracks.mem_taken_iff _).mpr ⟨other, member, same⟩)
  by_cases taken : stem ∈ namer.taken
  · obtain ⟨number, name, -, trials, few, ends⟩ := next_of_taken taken
    have above := ends.le
    have inCalls : SearchEnds (earlier.map Call.name) stem (namer.lastNumber stem + 1)
        number trials := ends.congr fun other => by simp [tracks.taken]
    have bound : trials ≤ earlier.length + 1 := by simpa [tracks.taken] using few
    refine ⟨fresh, .inr ⟨number, by omega, name⟩, ?_, ?_, fun _ => ?_⟩
    · obtain ⟨other, member, same⟩ := (tracks.mem_taken_iff stem).mp taken
      simp only [name, numbered_ne, false_iff]
      exact fun free => free other member same
    · intro smaller other member same
      have used := (tracks.lastUsed stem).greatest smaller member
      have equal : number = other := numbered_injective stem (name.symm.trans same)
      omega
    · exact ⟨namer.lastNumber stem, number, trials, tracks.lastUsed stem, inCalls, bound, name⟩
  · have name : (namer.next stem).1 = stem := congrArg Prod.fst (next_of_free taken)
    refine ⟨fresh, .inl name, ?_, ?_, fun other => absurd name other⟩
    · simp only [name, true_iff]
      exact fun other member same => taken ((tracks.mem_taken_iff stem).mpr ⟨other, member, same⟩)
    · intro smaller number _ same
      exact absurd (same.symm.trans name) (numbered_ne stem number)

/-- After a call the namer tracks this one as well. -/
theorem Tracks.next :
    (namer.next stem).2.Tracks (earlier ++ [⟨stem, (namer.next stem).1⟩]) where
  taken := by simp [taken_next, tracks.taken]
  lastUsed := by
    intro other
    have before := tracks.lastUsed other
    by_cases taken : stem ∈ namer.taken
    · obtain ⟨number, name, numbers, trials, -, ends⟩ := next_of_taken taken
      have last : (namer.next stem).2.lastNumber other =
          if stem = other then number else namer.lastNumber other := by
        rw [lastNumber, numbers]
        exact lastNumber_cons namer.taken namer.numbers stem other number
      rw [name, last]
      split
      next same =>
        subst same
        exact before.append_numbered ends.le
      next different =>
        exact before.append fun _ same => different (congrArg Call.stem same)
    · rw [next_of_free taken]
      refine before.append fun number same => ?_
      obtain ⟨rfl, plain⟩ := Call.mk.inj same
      exact numbered_ne stem number plain.symm

end Step

/-- Each of the calls for some stems answers to those before it. -/
theorem answers_of_calls {stems : List String} {namer : Namer} {earlier front back : List Call}
    {call : Call} (tracks : namer.Tracks earlier)
    (whole : calls stems namer = front ++ call :: back) : Answers (earlier ++ front) call := by
  induction stems generalizing namer earlier front with
  | nil => simp [calls] at whole
  | cons stem stems ih =>
      cases front with
      | nil =>
          obtain ⟨rfl, -⟩ := List.cons.inj whole
          simpa using tracks.answers stem
      | cons first front =>
          obtain ⟨rfl, later⟩ := List.cons.inj whole
          simpa using ih (tracks.next stem) later

theorem map_stem_calls (stems : List String) (namer : Namer) :
    (calls stems namer).map Call.stem = stems := by
  induction stems generalizing namer with
  | nil => rfl
  | cons stem stems ih => simp [calls, ih]

/-- Naming leaves is one call for each of them, with the row number added to its answer. -/
theorem nameAll_eq_zip_calls (setting : Setting) (row : Nat) {leaves : List Comparator}
    (named : ∀ leaf ∈ leaves, leaf.isLiteral = false) (namer : Namer) :
    (nameAll setting row leaves namer).1 =
      leaves.zip ((calls (leaves.map (·.stem setting)) namer).map (withRow ·.name row)) := by
  induction leaves generalizing namer with
  | nil => rfl
  | cons leaf leaves ih =>
      have notLiteral := named leaf List.mem_cons_self
      have others := ih fun other member => named other (List.mem_cons_of_mem leaf member)
      simp [nameAll, calls, notLiteral, others]

theorem nodup_map_snd_nameAll (setting : Setting) (row : Nat) {leaves : List Comparator}
    (named : ∀ leaf ∈ leaves, leaf.isLiteral = false) (namer : Namer) :
    ((nameAll setting row leaves namer).1.map Prod.snd).Nodup := by
  have notLiteral : ∀ leaf ∈ (nameAll setting row leaves namer).1, leaf.1.isLiteral = false := by
    intro leaf member
    apply named
    rw [← map_fst_nameAll setting row leaves namer]
    exact List.mem_map_of_mem member
  rw [List.Nodup, List.pairwise_map]
  refine (pairwise_stem_ne_nameAll setting row leaves namer).imp_of_mem ?_
  intro first second firstMem secondMem distinct
  exact distinct (notLiteral first firstMem) (notLiteral second secondMem)

/--
The leaves of a sequence are named by one call each.  Every call answers to
those before it, and with the row number added the names are distinct.
-/
theorem nameAll_answers (setting : Setting) (row : Nat) (leaves : List Comparator)
    (named : ∀ leaf ∈ leaves, leaf.isLiteral = false) :
    let answered := calls (leaves.map (·.stem setting)) {}
    answered.map Call.stem = leaves.map (·.stem setting) ∧
      (nameAll setting row leaves {}).1 = leaves.zip (answered.map (withRow ·.name row)) ∧
      ((nameAll setting row leaves {}).1.map Prod.snd).Nodup ∧
      ∀ earlier call later, answered = earlier ++ call :: later → Answers earlier call := by
  refine ⟨map_stem_calls _ _, nameAll_eq_zip_calls setting row named {},
    nodup_map_snd_nameAll setting row named {}, ?_⟩
  intro earlier call later whole
  simpa using answers_of_calls tracks_empty whole

/-- A column that has the first numbered stem of another one, which is asked for three times. -/
def numberedColumns : List Comparator :=
  ["Id_1", "Id", "Id", "Id_1", "Id"].map fun name =>
    { field := { name }, comparison := .equal, value := .int 1, kind := .plain }

theorem nameAll_answers_numberedColumns :
    (∀ leaf ∈ numberedColumns, leaf.isLiteral = false) ∧
      (nameAll .sqlServer 7 numberedColumns {}).1.map Prod.snd =
        ["Id_1_7", "Id_7", "Id_2_7", "Id_1_1_7", "Id_3_7"] ∧
      ((nameAll .sqlServer 7 numberedColumns {}).1.map Prod.snd).Nodup ∧
      Answers [⟨"Id_1", "Id_1"⟩, ⟨"Id", "Id"⟩] ⟨"Id", "Id_2"⟩ := by
  have named : ∀ leaf ∈ numberedColumns, leaf.isLiteral = false := by decide
  obtain ⟨-, -, distinct, answers⟩ := nameAll_answers .sqlServer 7 numberedColumns named
  refine ⟨named, by decide +kernel, distinct, ?_⟩
  exact answers _ _ [⟨"Id_1", "Id_1_1"⟩, ⟨"Id", "Id_3"⟩] (by decide +kernel)

end Namer

end SqlCompiler
