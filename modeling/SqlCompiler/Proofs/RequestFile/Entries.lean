import SqlCompiler.Proofs.Compiler.Session
import SqlCompiler.Proofs.Error.InOrder
import SqlCompiler.RequestFile.Compile

/-!
# Entries do not touch each other

All entries of a file are compiled on one growing text, which an entry finds as
the entries before it have left it.  No entry reads it: what an entry compiles
to, or why it fails, is the same on every text.  So a file compiles to what its
entries compile to one by one, or fails as the first of them that fails alone.
-/

namespace SqlCompiler

variable {compiler : Compiler} {configuration : Configuration}

namespace RequestEntry

/-- The result of an entry apart from any text. -/
def compile (entry : RequestEntry) (compiler : Compiler) (configuration : Configuration) :
    Except Failure CompiledEntry := do
  let (request, operation) ← entry.prepare
  let text ← (compiler.text configuration operation request).mapError ([.refused ·])
  .ok { label := entry.label, text, parameters := entry.listedParameters compiler request }

/-- An entry drops the text that it finds before it writes, and does not read it. -/
theorem compileOver_fst (entry : RequestEntry) (before : StatementText) :
    (entry.compileOver compiler configuration before).1 =
      entry.compile compiler configuration := by
  unfold compileOver compile
  cases entry.prepare with
  | error failure => rfl
  | ok prepared =>
      obtain ⟨request, operation⟩ := prepared
      change Prod.fst _ = ((compiler.text configuration operation request).mapError _ >>= _)
      rw [← compiler.textOver_fst configuration request operation before]
      simp only
      obtain ⟨outcome, after⟩ := compiler.textOver configuration operation request before
      cases outcome with
      | error error => rfl
      | ok text => rfl

end RequestEntry

namespace RequestFile

variable {entry : RequestEntry} {entries rest : List RequestEntry} {position : Nat}
  {before : StatementText}

/-! One step of a file: an entry that fails ends it, another one goes in front of the others. -/

theorem compileFrom_of_error {cause : Failure}
    (fails : entry.compile compiler configuration = .error cause) :
    (compileFrom compiler configuration position (entry :: rest) before).1 =
      .error (.entry (position + 1) entry.label :: cause) := by
  rw [← entry.compileOver_fst before] at fails
  rw [compileFrom]
  generalize entry.compileOver compiler configuration before = step at fails ⊢
  obtain ⟨outcome, after⟩ := step
  cases fails
  rfl

theorem compileFrom_of_ok {result : CompiledEntry}
    (compiles : entry.compile compiler configuration = .ok result) :
    ∃ after, (compileFrom compiler configuration position (entry :: rest) before).1 =
      (compileFrom compiler configuration (position + 1) rest after).1.map (result :: ·) := by
  rw [← entry.compileOver_fst before] at compiles
  rw [compileFrom]
  generalize entry.compileOver compiler configuration before = step at compiles ⊢
  obtain ⟨outcome, after⟩ := step
  cases compiles
  exact ⟨after, rfl⟩

/-- Entries that stand behind others compile one by one, whatever the others have left. -/
theorem compileFrom_eq_ok_iff {results : List CompiledEntry} :
    (compileFrom compiler configuration position entries before).1 = .ok results ↔
      List.Forall₂ (fun entry result => entry.compile compiler configuration = .ok result)
        entries results := by
  induction entries generalizing position before results with
  | nil =>
      rw [List.forall₂_nil_left_iff]
      constructor
      · intro compiled
        exact (Except.ok.inj compiled).symm
      · rintro rfl
        rfl
  | cons entry rest ih =>
      rw [List.forall₂_cons_left_iff]
      cases alone : entry.compile compiler configuration with
      | error cause =>
          rw [compileFrom_of_error alone]
          simp only [reduceCtorEq, false_and, exists_false]
      | ok compiled =>
          obtain ⟨after, steps⟩ := compileFrom_of_ok alone
          rw [steps, map_eq_ok_iff]
          simp only [ih, Except.ok.injEq]
          constructor
          · rintro ⟨others, compiledOthers, rfl⟩
            exact ⟨compiled, others, rfl, compiledOthers, rfl⟩
          · rintro ⟨_, others, rfl, compiledOthers, rfl⟩
            exact ⟨others, compiledOthers, rfl⟩

/-- Entries fail as the first of them that fails alone, which is named by its position. -/
theorem compileFrom_eq_error_iff {failure : Failure} :
    (compileFrom compiler configuration position entries before).1 = .error failure ↔
      ∃ earlier entry rest cause, entries = earlier ++ entry :: rest ∧
        (∀ other ∈ earlier, ∃ result, other.compile compiler configuration = .ok result) ∧
        entry.compile compiler configuration = .error cause ∧
        failure = .entry (position + earlier.length + 1) entry.label :: cause := by
  induction entries generalizing position before with
  | nil => simp [compileFrom]
  | cons entry rest ih =>
      cases alone : entry.compile compiler configuration with
      | error cause =>
          rw [compileFrom_of_error alone]
          constructor
          · intro failed
            exact ⟨[], entry, rest, cause, rfl, by simp, alone, (Except.error.inj failed).symm⟩
          · rintro ⟨earlier, failing, behind, other, split, compile, fails, rfl⟩
            cases earlier with
            | nil =>
                obtain ⟨rfl, rfl⟩ := List.cons.inj split
                rw [Except.error.inj (alone.symm.trans fails)]
                rfl
            | cons first earlier =>
                obtain ⟨rfl, -⟩ := List.cons.inj split
                obtain ⟨result, compiled⟩ := compile entry List.mem_cons_self
                rw [alone] at compiled
                cases compiled
      | ok compiled =>
          obtain ⟨after, steps⟩ := compileFrom_of_ok alone
          rw [steps, map_eq_error_iff, ih]
          have moved (others : List RequestEntry) :
              position + 1 + others.length + 1 = position + (others.length + 1) + 1 := by omega
          constructor
          · rintro ⟨earlier, failing, behind, cause, rfl, compile, fails, rfl⟩
            refine ⟨entry :: earlier, failing, behind, cause, rfl, ?_, fails, ?_⟩
            · exact List.forall_mem_cons.mpr ⟨⟨compiled, alone⟩, compile⟩
            · rw [moved, List.length_cons]
          · rintro ⟨earlier, failing, behind, cause, split, compile, fails, rfl⟩
            cases earlier with
            | nil =>
                obtain ⟨rfl, rfl⟩ := List.cons.inj split
                rw [alone] at fails
                cases fails
            | cons first earlier =>
                obtain ⟨rfl, rfl⟩ := List.cons.inj split
                refine ⟨earlier, failing, behind, cause, rfl, ?_, fails, ?_⟩
                · exact (List.forall_mem_cons.mp compile).2
                · rw [moved, List.length_cons]

theorem compileFrom_fst (before other : StatementText) :
    (compileFrom compiler configuration position entries before).1 =
      (compileFrom compiler configuration position entries other).1 := by
  cases found : (compileFrom compiler configuration position entries other).1 with
  | ok results => exact compileFrom_eq_ok_iff.mpr (compileFrom_eq_ok_iff.mp found)
  | error failure => exact compileFrom_eq_error_iff.mpr (compileFrom_eq_error_iff.mp found)

/-- The file with one entry only. -/
def only (file : RequestFile) (entry : RequestEntry) : RequestFile :=
  { file with entries := [entry] }

variable {file : RequestFile} {dialect : Dialect}

theorem compile_only_eq_ok_iff {result : CompiledEntry} :
    (file.only entry).compile dialect configuration = .ok [result] ↔
      entry.compile (file.compiler dialect) configuration = .ok result := by
  refine compileFrom_eq_ok_iff.trans ?_
  simp only [only, List.forall₂_cons, List.Forall₂.nil, and_true]
  rfl

theorem compile_only_eq_error_iff {cause : Failure} :
    (file.only entry).compile dialect configuration = .error (.entry 1 entry.label :: cause) ↔
      entry.compile (file.compiler dialect) configuration = .error cause := by
  change (compileFrom (file.compiler dialect) configuration 0 [entry] {}).1 = _ ↔ _
  cases alone : entry.compile (file.compiler dialect) configuration with
  | error other =>
      rw [compileFrom_of_error alone]
      simp
  | ok result =>
      have steps : ∃ after, (compileFrom (file.compiler dialect) configuration 0 [entry] {}).1 =
          (compileFrom (file.compiler dialect) configuration 1 [] after).1.map (result :: ·) :=
        compileFrom_of_ok alone
      obtain ⟨after, steps⟩ := steps
      rw [steps, map_eq_error_iff]
      simp [compileFrom]

/--
A file compiles if each of its entries does when it is the only one, and then to
their results; otherwise it fails as the first entry that does not, under the
position of that entry.  What the entries find written makes no difference.
-/
theorem entries_compile_alone (file : RequestFile) (dialect : Dialect)
    (configuration : Configuration) :
    ((∃ results, file.compile dialect configuration = .ok results) ↔
      ∀ entry ∈ file.entries, ∃ result,
        (file.only entry).compile dialect configuration = .ok [result]) ∧
    (∀ results, file.compile dialect configuration = .ok results ↔
      List.Forall₂
        (fun entry result => (file.only entry).compile dialect configuration = .ok [result])
        file.entries results) ∧
    (∀ failure, file.compile dialect configuration = .error failure ↔
      ∃ earlier entry later cause, file.entries = earlier ++ entry :: later ∧
        (∀ other ∈ earlier, ∃ result,
          (file.only other).compile dialect configuration = .ok [result]) ∧
        (file.only entry).compile dialect configuration =
          .error (.entry 1 entry.label :: cause) ∧
        failure = .entry (earlier.length + 1) entry.label :: cause) ∧
    ∀ before, (compileFrom (file.compiler dialect) configuration 0 file.entries before).1 =
      file.compile dialect configuration := by
  have compiles (results : List CompiledEntry) : file.compile dialect configuration = .ok results ↔
      List.Forall₂
        (fun entry result => (file.only entry).compile dialect configuration = .ok [result])
        file.entries results := by
    simp only [compile_only_eq_ok_iff]
    exact compileFrom_eq_ok_iff
  refine ⟨?_, compiles, ?_, ?_⟩
  · simp only [compiles]
    exact exists_forall₂_iff
  · intro failure
    simp only [compile_only_eq_ok_iff, compile_only_eq_error_iff]
    refine compileFrom_eq_error_iff.trans ?_
    simp only [Nat.zero_add]
  · intro before
    exact compileFrom_fst before {}

end RequestFile

end SqlCompiler
