import SqlCompiler.Proofs.Compiler.Plan

/-!
# Requests are refused in all dialects alike

The dialects spell an operation in their own ways, and some write it by a
different statement, but none adds, drops or moves a check.  Every operation
has one sequence of checks that looks at the setting, the policy for reported
keys and the request.  The common checks come first in all of them, so the
first one that fails decides whatever else is wrong with the request.
-/

namespace SqlCompiler

/-- Whether something is accepted, or else the reason to refuse it. -/
def verdict {α : Type} (outcome : Except CompileError α) : Except CompileError Unit :=
  outcome.map fun _ => ()

section Verdict

variable {α β : Type}

@[simp]
theorem verdict_ok (value : α) : verdict (.ok value) = .ok () :=
  rfl

@[simp]
theorem verdict_unit (check : Except CompileError Unit) : verdict check = check := by
  cases check <;> rfl

theorem verdict_bind (check : Except CompileError α) (rest : α → Except CompileError β) :
    verdict (check >>= rest) = check >>= fun value => verdict (rest value) := by
  cases check <;> rfl

/-- A step behind which nothing is refused counts by its own verdict. -/
theorem bind_ok_eq_verdict (check : Except CompileError α) :
    (check >>= fun _ => .ok ()) = verdict check := by
  cases check <;> rfl

/-- Of a step whose result is not looked at, only the verdict counts. -/
theorem verdict_bind_const (check : Except CompileError α) (rest : Except CompileError β) :
    (verdict check >>= fun _ => rest) = check >>= fun _ => rest := by
  cases check <;> rfl

theorem verdict_eq_error_iff {outcome : Except CompileError α} {error : CompileError} :
    verdict outcome = .error error ↔ outcome = .error error := by
  cases outcome <;> simp [verdict, Except.map]

theorem verdict_eq_ok_iff {outcome : Except CompileError α} :
    verdict outcome = .ok () ↔ ∃ value, outcome = .ok value := by
  cases outcome <;> simp [verdict, Except.map]

/-- Steps in a row are refused by the first, or by the others once the first is accepted. -/
theorem check_bind_eq_error_iff {check : Except CompileError Unit}
    {rest : Except CompileError β} {error : CompileError} :
    (check >>= fun _ => rest) = .error error ↔
      check = .error error ∨ check = .ok () ∧ rest = .error error := by
  cases check <;> simp [bind, Except.bind]

end Verdict

namespace Request

variable {request : Request} {setting : Setting} {error : CompileError}

/-- The first of the common checks that a request does not pass. -/
inductive FirstFault (request : Request) (setting : Setting) : CompileError → Prop where
  | hints (given : request.hasHints = true) (unsupported : setting.allowsHints = false) :
      FirstFault request setting .hintsNotSupported
  | table (hints : request.hasHints = true → setting.allowsHints = true)
      (blank : Text.isBlank request.table = true) :
      FirstFault request setting .blankTableName
  | primary {column : Column} (hints : request.hasHints = true → setting.allowsHints = true)
      (table : Text.isBlank request.table = false)
      (given : request.primaryColumn = some column) (unflagged : column.isPrimary = false) :
      FirstFault request setting (.primaryNotFlagged column.name)
  | identity {column : Column} (hints : request.hasHints = true → setting.allowsHints = true)
      (table : Text.isBlank request.table = false)
      (primary : ∀ key, request.primaryColumn = some key → key.isPrimary = true)
      (given : request.identityColumn = some column) (unflagged : column.isIdentity = false) :
      FirstFault request setting (.identityNotFlagged column.name)

theorem checkHints_eq_ok_iff :
    request.checkHints setting = .ok () ↔
      (request.hasHints = true → setting.allowsHints = true) := by
  cases given : request.hasHints <;> cases allowed : setting.allowsHints <;>
    simp [checkHints, given, allowed]

theorem checkHints_eq_error_iff :
    request.checkHints setting = .error error ↔
      CompileError.hintsNotSupported = error ∧ request.hasHints = true ∧
        setting.allowsHints = false := by
  cases given : request.hasHints <;> cases allowed : setting.allowsHints <;>
    simp [checkHints, given, allowed]

theorem checkTable_eq_ok_iff :
    request.checkTable = .ok () ↔ Text.isBlank request.table = false := by
  cases blank : Text.isBlank request.table <;> simp [checkTable, blank]

theorem checkTable_eq_error_iff :
    request.checkTable = .error error ↔
      CompileError.blankTableName = error ∧ Text.isBlank request.table = true := by
  cases blank : Text.isBlank request.table <;> simp [checkTable, blank]

theorem checkPrimary_eq_ok_iff :
    request.checkPrimary = .ok () ↔
      ∀ key, request.primaryColumn = some key → key.isPrimary = true := by
  cases given : request.primaryColumn with
  | none => simp [checkPrimary, given]
  | some column => cases flagged : column.isPrimary <;> simp [checkPrimary, given, flagged]

theorem checkPrimary_eq_error_iff :
    request.checkPrimary = .error error ↔
      ∃ column, request.primaryColumn = some column ∧ column.isPrimary = false ∧
        CompileError.primaryNotFlagged column.name = error := by
  cases given : request.primaryColumn with
  | none => simp [checkPrimary, given]
  | some column => cases flagged : column.isPrimary <;> simp [checkPrimary, given, flagged]

theorem checkIdentity_eq_error_iff :
    request.checkIdentity = .error error ↔
      ∃ column, request.identityColumn = some column ∧ column.isIdentity = false ∧
        CompileError.identityNotFlagged column.name = error := by
  cases given : request.identityColumn with
  | none => simp [checkIdentity, given]
  | some column => cases flagged : column.isIdentity <;> simp [checkIdentity, given, flagged]

/-- The common checks refuse a request for its first fault. -/
theorem checkCommon_eq_error_iff :
    request.checkCommon setting = .error error ↔ request.FirstFault setting error := by
  simp only [checkCommon, check_bind_eq_error_iff, checkHints_eq_ok_iff, checkHints_eq_error_iff,
    checkTable_eq_ok_iff, checkTable_eq_error_iff, checkPrimary_eq_ok_iff,
    checkPrimary_eq_error_iff, checkIdentity_eq_error_iff]
  constructor
  · rintro (⟨rfl, given, unsupported⟩ | ⟨hints, ⟨rfl, blank⟩ | ⟨table,
      ⟨column, given, unflagged, rfl⟩ | ⟨primary, column, given, unflagged, rfl⟩⟩⟩)
    · exact .hints given unsupported
    · exact .table hints blank
    · exact .primary hints table given unflagged
    · exact .identity hints table primary given unflagged
  · intro fault
    cases fault with
    | hints given unsupported => exact .inl ⟨rfl, given, unsupported⟩
    | table hints blank => exact .inr ⟨hints, .inl ⟨rfl, blank⟩⟩
    | primary hints table given unflagged =>
        exact .inr ⟨hints, .inr ⟨table, .inl ⟨_, given, unflagged, rfl⟩⟩⟩
    | identity hints table primary given unflagged =>
        exact .inr ⟨hints, .inr ⟨table, .inr ⟨primary, _, given, unflagged, rfl⟩⟩⟩

end Request

namespace Operation

/-- The checks of an operation behind the common ones, in their order. -/
def ownChecks (operation : Operation) (setting : Setting)
    (policy : Except CompileError KeyPolicy) (request : Request) : Except CompileError Unit :=
  match operation with
  | .count _ | .anyRow | .aggregate _ _ _ | .delete _ => .ok ()
  | .truncate => request.checkNoHints
  | .query _ | .queryAll => request.checkFields
  | .batchQuery page rows => do
      request.checkFields
      request.checkOrder
      verdict (Request.resolvePage page rows)
  | .insert extent => do
      extent.check request setting
      request.checkFields
      request.checkMapping setting
      verdict (request.insertableFields setting)
      verdict policy
  | .update extent => do
      extent.check request setting
      request.checkFields
      match Compiler.heededFilter request extent with
      | some _ => verdict (request.someUpdatableFields setting [])
      | none => do
          let qualifiers ← request.resolveQualifiers setting
          verdict (request.someUpdatableFields setting qualifiers)
  | .merge extent => do
      extent.check request setting
      request.checkFields
      request.checkMapping setting
      verdict (request.resolveQualifiers setting)
      verdict (request.insertableFields setting)
      verdict policy

/-- All checks of an operation; no dialect has a say in them. -/
def checks (operation : Operation) (setting : Setting)
    (policy : Except CompileError KeyPolicy) (request : Request) :
    Except CompileError Unit := do
  request.checkCommon setting
  operation.ownChecks setting policy request

end Operation

namespace Compiler

variable {compiler : Compiler} {configuration : Configuration} {request : Request}
  {extent : Extent}

theorem verdict_reportedKey :
    verdict (compiler.reportedKey configuration request) =
      verdict (compiler.policy configuration) := by
  rw [reportedKey, verdict_bind]
  exact bind_ok_eq_verdict _

/-- A plan that is carried out is refused exactly where it cannot be made. -/
theorem verdict_bind_plan {Plan : Type} (plan : Except CompileError Plan)
    {carryOut : Plan → Except CompileError (List Statement)}
    (accepts : ∀ made, ∃ statements, carryOut made = .ok statements) :
    verdict (plan >>= carryOut) = verdict plan := by
  cases plan with
  | error error => rfl
  | ok made =>
      obtain ⟨statements, carried⟩ := accepts made
      exact congrArg verdict carried

theorem verdict_planInsert :
    verdict (compiler.planInsert configuration request extent) =
      (Operation.insert extent).checks compiler.setting (compiler.policy configuration)
        request := by
  simp only [planInsert, Operation.checks, Operation.ownChecks, verdict_bind, verdict_bind_const]
  simp only [bind_ok_eq_verdict, verdict_ok, verdict_reportedKey]

theorem verdict_planUpdate :
    verdict (compiler.planUpdate request extent) =
      (Operation.update extent).checks compiler.setting (compiler.policy configuration)
        request := by
  have qualified : verdict (compiler.planQualifiedUpdate request) =
      request.resolveQualifiers compiler.setting >>= fun qualifiers =>
        verdict (request.someUpdatableFields compiler.setting qualifiers) := by
    simp only [planQualifiedUpdate, verdict_bind, verdict_ok, bind_ok_eq_verdict]
  simp only [planUpdate, Operation.checks, Operation.ownChecks, verdict_bind]
  cases extent with
  | batch => simp only [heededFilter, qualified]
  | oneRow =>
      cases effective : request.effectiveFilter with
      | none => simp only [heededFilter, effective, qualified]
      | some filter =>
          simp only [heededFilter, effective, planFilteredUpdate, verdict_bind, verdict_ok,
            bind_ok_eq_verdict]

theorem verdict_planMerge :
    verdict (compiler.planMerge configuration request extent) =
      (Operation.merge extent).checks compiler.setting (compiler.policy configuration)
        request := by
  simp only [planMerge, Operation.checks, Operation.ownChecks, verdict_bind, verdict_bind_const]
  simp only [bind_ok_eq_verdict, verdict_ok, verdict_reportedKey]

theorem verdict_query {top : Option Nat} {scope : Scope} :
    verdict (compiler.query request top scope) =
      request.checkCommon compiler.setting >>= fun _ => request.checkFields := by
  simp only [query, verdict_bind, verdict_ok, bind_ok_eq_verdict, verdict_unit]

/-- A compiler for a dialect accepts or refuses a request by the checks of the operation. -/
theorem verdict_compile {dialect : Dialect} (chosen : compiler.dialect = some dialect)
    (operation : Operation) :
    verdict (compiler.compile configuration operation request) =
      operation.checks compiler.setting (compiler.policy configuration) request := by
  cases operation with
  | count scope => exact verdict_bind _ _
  | anyRow => exact verdict_bind _ _
  | aggregate function field scope => exact verdict_bind _ _
  | delete scope => exact verdict_bind _ _
  | truncate =>
      simp only [compile, truncate_eq, verdict_bind, verdict_ok, bind_ok_eq_verdict, verdict_unit,
        Operation.checks, Operation.ownChecks]
  | query top => exact verdict_query
  | queryAll => exact verdict_query
  | batchQuery page rows =>
      rw [compile, batchQuery, chosen]
      simp only [planPage, verdict_bind, verdict_ok, bind_ok_eq_verdict,
        Operation.checks, Operation.ownChecks]
  | insert extent =>
      rw [compile, insert_eq]
      exact (verdict_bind_plan _ fun plan => ⟨_, rfl⟩).trans verdict_planInsert
  | update extent => exact (verdict_bind_plan _ fun plan => ⟨_, rfl⟩).trans verdict_planUpdate
  | merge extent =>
      rw [compile, merge, chosen]
      exact (verdict_bind_plan _ fun plan => ⟨_, rfl⟩).trans verdict_planMerge

theorem verdict_text (compiler : Compiler) (configuration : Configuration)
    (operation : Operation) (request : Request) :
    verdict (compiler.text configuration operation request) =
      verdict (compiler.compile configuration operation request) := by
  rw [Compiler.text, verdict_bind]
  exact bind_ok_eq_verdict _

/-- The compiler for a dialect with any setting and with a policy of its own or the shared one. -/
def forDialect (setting : Setting) (keyPolicy : Option KeyPolicy) (dialect : Dialect) :
    Compiler where
  dialect := some dialect
  setting := setting
  keyPolicy := keyPolicy

/--
With one setting and one policy all dialects accept a request, or all refuse it
for the same reason.  If the request does not pass the common checks, then this
is its first fault, whatever the operation is and whatever else is wrong.
-/
theorem dialects_agree (setting : Setting) (keyPolicy : Option KeyPolicy)
    (configuration : Configuration) (operation : Operation) (request : Request) :
    ((∀ dialect, ∃ sql,
        (forDialect setting keyPolicy dialect).text configuration operation request = .ok sql) ∨
      ∃ error, ∀ dialect,
        (forDialect setting keyPolicy dialect).text configuration operation request =
          .error error) ∧
    ∀ error, request.FirstFault setting error → ∀ dialect,
      (forDialect setting keyPolicy dialect).text configuration operation request =
        .error error := by
  let policy := (forDialect setting keyPolicy .sqlServer).policy configuration
  -- The policy is the same for every dialect, so the right side does not depend on it.
  have same (dialect : Dialect) :
      verdict ((forDialect setting keyPolicy dialect).text configuration operation request) =
        operation.checks setting policy request :=
    (verdict_text _ configuration operation request).trans (verdict_compile rfl operation)
  refine ⟨?_, fun error fault dialect => ?_⟩
  · cases checked : operation.checks setting policy request with
    | ok passed => exact .inl fun dialect => verdict_eq_ok_iff.mp ((same dialect).trans checked)
    | error error =>
        exact .inr ⟨error, fun dialect =>
          verdict_eq_error_iff.mp ((same dialect).trans checked)⟩
  · have refused : operation.checks setting policy request = .error error :=
      check_bind_eq_error_iff.mpr (.inl (Request.checkCommon_eq_error_iff.mpr fault))
    exact verdict_eq_error_iff.mp ((same dialect).trans refused)

/-- A request without a name of its table, with a false key and without fields. -/
def severalFaults : Request where
  table := " "
  primaryColumn := some { name := "Id" }
  batchSize := 3

theorem dialects_agree_severalFaults :
    severalFaults.FirstFault .mySql .blankTableName ∧
      (∀ dialect, (forDialect .mySql none dialect).text .initial (.merge .batch) severalFaults =
        .error .blankTableName) ∧
      CompileError.blankTableName.message = "Missing input: the table name is required" := by
  have fault : severalFaults.FirstFault .mySql .blankTableName :=
    .table (fun given => by cases given) (by decide)
  exact ⟨fault, (dialects_agree .mySql none .initial (.merge .batch) severalFaults).2 _ fault,
    by decide⟩

end Compiler

end SqlCompiler
