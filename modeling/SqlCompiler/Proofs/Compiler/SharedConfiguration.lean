import Mathlib.Data.List.Induction
import SqlCompiler.Proofs.Compiler.Plan
import SqlCompiler.Proofs.Compiler.Session
import SqlCompiler.Trace

/-!
# What the shared configuration can change

All compilers share one configuration, and a caller may change it between two
compilations.  Whatever calls were made before, the policy number that it holds
is the number of a policy.  A compilation looks it up for the key of inserted
and merged rows only, and only if the compiler has no policy of its own; the
length of traced texts shows in the events and in nothing that is handed back.
-/

namespace SqlCompiler

/-- A call that changes the shared configuration. -/
inductive ConfigurationCall where
  | setup (options : Options)
  | reset
  deriving DecidableEq, Repr

namespace ConfigurationCall

/-- The configuration behind a call, which replaces all that was stored before. -/
def perform (call : ConfigurationCall) (_before : Configuration) : Configuration :=
  match call with
  | setup options => .setup options
  | reset => .initial

def options : ConfigurationCall → Options
  | setup options => options
  | reset => {}

theorem options_perform (call : ConfigurationCall) (before : Configuration) :
    (call.perform before).options = .ok call.options := by
  cases call with
  | setup options =>
      rw [perform, Configuration.options, Configuration.keyPolicy_setup]
      rfl
  | reset => rfl

end ConfigurationCall

namespace Configuration

/-- The shared configuration after some calls, the first of them first. -/
def after (calls : List ConfigurationCall) : Configuration :=
  calls.foldl (fun before call => call.perform before) initial

/-- The options of the last call, or those that hold before any call. -/
def lastOptions (calls : List ConfigurationCall) : Options :=
  (calls.getLast?.map ConfigurationCall.options).getD {}

/-- The options of the last call can be read back, and with them a policy. -/
theorem options_after (calls : List ConfigurationCall) :
    (after calls).options = .ok (lastOptions calls) := by
  induction calls using List.reverseRecOn with
  | nil => rfl
  | append_singleton calls call _ =>
      have last : after (calls ++ [call]) = call.perform (after calls) := by
        rw [after, List.foldl_append]
        rfl
      rw [last, call.options_perform, lastOptions, List.getLast?_concat]
      rfl

theorem keyPolicy_of_options {configuration : Configuration} {options : Options}
    (stored : configuration.options = .ok options) :
    configuration.keyPolicy = .ok options.keyPolicy := by
  obtain ⟨policy, found, equal⟩ := bind_eq_ok_iff.mp stored
  cases equal
  exact found

end Configuration

/-- The operation reports the key of the rows that it writes. -/
def Operation.reportsKey : Operation → Bool
  | .insert _ | .merge _ => true
  | _ => false

namespace Compiler

/-- What a traced operation hands back, leaves in the text of its caller, and reports. -/
structure Observation where
  result : Except CompileError String
  text : StatementText
  events : List Trace.Event

/-- An operation on the text of its caller, with the trace of it. -/
def observe (compiler : Compiler) (configuration : Configuration) (operation : Operation)
    (request : Request) (before : StatementText) : Observation :=
  let outcome := compiler.textOver configuration operation request before
  { result := outcome.1
    text := outcome.2
    events := Trace.events compiler configuration operation request outcome.1 }

/-- The compiler with a policy of its own. -/
def withPolicy (compiler : Compiler) (policy : KeyPolicy) : Compiler :=
  { compiler with keyPolicy := some policy }

/-- An operation cannot tell two shared configurations from each other. -/
inductive Indistinct (compiler : Compiler) (first second : Configuration) : Operation → Prop where
  | ownPolicy {operation : Operation} {policy : KeyPolicy}
      (own : compiler.keyPolicy = some policy) : Indistinct compiler first second operation
  | noKey {operation : Operation} (keyless : operation.reportsKey = false) :
      Indistinct compiler first second operation
  | samePolicy {operation : Operation} (same : first.keyPolicy = second.keyPolicy) :
      Indistinct compiler first second operation

variable {compiler other : Compiler} {first second : Configuration} {request : Request}

section SamePolicy

variable (policy : compiler.policy first = other.policy second)
  (setting : compiler.setting = other.setting) (dialect : compiler.dialect = other.dialect)

include policy

theorem reportedKey_congr :
    compiler.reportedKey first request = other.reportedKey second request := by
  rw [reportedKey, reportedKey, policy]

include setting

theorem planInsert_congr (extent : Extent) :
    compiler.planInsert first request extent = other.planInsert second request extent := by
  simp only [planInsert, setting, reportedKey_congr policy]

theorem planMerge_congr (extent : Extent) :
    compiler.planMerge first request extent = other.planMerge second request extent := by
  simp only [planMerge, setting, reportedKey_congr policy]

include dialect

/-- Beside its dialect and its setting a compiler looks at the policy in force and nothing else. -/
theorem compile_congr (operation : Operation) :
    compiler.compile first operation request = other.compile second operation request := by
  cases operation with
  | insert extent =>
      have tail : compiler.insertTail = other.insertTail := by
        funext key row batched
        simp only [insertTail, dialect, setting]
      have row : compiler.insertRow = other.insertRow := by
        funext target plan batched row
        simp only [insertRow, tail]
      simp only [compile, insert_eq, insertStatements, planInsert_congr policy setting, dialect,
        row]
  | merge extent =>
      simp only [compile, merge, planMerge_congr policy setting, dialect, setting]
  | _ =>
      obtain ⟨_, _, _⟩ := compiler
      obtain ⟨_, _, _⟩ := other
      cases dialect
      cases setting
      rfl

end SamePolicy

/-- The policy is looked up for no other operation than inserts and merges. -/
theorem compile_of_keyless {operation : Operation} (keyless : operation.reportsKey = false)
    (first second : Configuration) (request : Request) :
    compiler.compile first operation request = compiler.compile second operation request := by
  cases operation with
  | insert extent | merge extent => cases keyless
  | _ => rfl

theorem compile_of_indistinct {operation : Operation}
    (indistinct : compiler.Indistinct first second operation) (request : Request) :
    compiler.compile first operation request = compiler.compile second operation request := by
  cases indistinct with
  | ownPolicy own =>
      have agree : compiler.policy first = compiler.policy second := by
        rw [policy_of_own own, policy_of_own own]
      exact compile_congr agree rfl rfl operation
  | noKey keyless => exact compile_of_keyless keyless first second request
  | samePolicy same =>
      have agree : compiler.policy first = compiler.policy second := by
        rw [policy, policy, same]
      exact compile_congr agree rfl rfl operation

/-- A shared policy acts like a policy of the compiler's own. -/
theorem compile_eq_withPolicy {configuration : Configuration} {policy : KeyPolicy}
    (without : compiler.keyPolicy = none) (shared : configuration.keyPolicy = .ok policy)
    (second : Configuration) (operation : Operation) (request : Request) :
    compiler.compile configuration operation request =
      (compiler.withPolicy policy).compile second operation request := by
  have agree : compiler.policy configuration = (compiler.withPolicy policy).policy second := by
    rw [Compiler.policy, without]
    exact shared
  exact compile_congr agree rfl rfl operation

theorem observe_result (configuration : Configuration) (operation : Operation)
    (before : StatementText) :
    (compiler.observe configuration operation request before).result =
      compiler.text configuration operation request :=
  compiler.textOver_fst configuration request operation before

/-- What is handed back follows from what the request compiles to. -/
theorem observe_congr {operation : Operation}
    (same : compiler.compile first operation request = other.compile second operation request)
    (setting : compiler.setting = other.setting) (before : StatementText) :
    (compiler.observe first operation request before).result =
        (other.observe second operation request before).result ∧
      (compiler.observe first operation request before).text =
        (other.observe second operation request before).text := by
  have outcome : compiler.textOver first operation request before =
      other.textOver second operation request before := by
    rw [textOver_eq_compile, textOver_eq_compile, same]
    simp only [written, setting]
  simp only [observe, outcome, and_self]

/--
The shared configuration always holds a policy, that of the last call.  Two
configurations that an operation cannot tell apart give the same result and
leave the same text; and a policy that is shared shows just as the same policy
of the compiler's own does.
-/
theorem configuration_shows_in_keys_only (compiler : Compiler) :
    (∀ calls, (Configuration.after calls).keyPolicy =
      .ok (Configuration.lastOptions calls).keyPolicy) ∧
    (∀ first second operation, compiler.Indistinct first second operation →
      ∀ request before,
        (compiler.observe first operation request before).result =
            (compiler.observe second operation request before).result ∧
          (compiler.observe first operation request before).text =
            (compiler.observe second operation request before).text) ∧
    ∀ calls second, compiler.keyPolicy = none → ∀ operation request before,
      (compiler.observe (.after calls) operation request before).result =
        ((compiler.withPolicy (Configuration.lastOptions calls).keyPolicy).observe second
          operation request before).result := by
  refine ⟨fun calls => ?_, fun first second operation indistinct request before => ?_,
    fun calls second without operation request before => ?_⟩
  · exact Configuration.keyPolicy_of_options (Configuration.options_after calls)
  · exact observe_congr (compile_of_indistinct indistinct request) rfl before
  · have shared := Configuration.keyPolicy_of_options (Configuration.options_after calls)
    exact (observe_congr (compile_eq_withPolicy without shared second operation request) rfl
      before).1

/-- A person with a code for its primary key and a generated number beside it. -/
def codedPerson : Request where
  table := "Person"
  fields := [{ name := "Code" }, { name := "Name" }]
  primaryColumn := some (.primary "Code")
  identityColumn := some { name := "Id", isIdentity := true }

def codedPersonInsert : String :=
  "INSERT INTO \"Person\" ( \"Code\", \"Name\" ) VALUES ( @Code, @Name ) " ++
    "RETURNING \"Code\" AS \"Result\" ;"

def shortTraces : List ConfigurationCall :=
  [.setup { keyPolicy := .primary, tracedLength := 6 }]

def wholeTraces : List ConfigurationCall :=
  [.setup { keyPolicy := .identity }, .reset, .setup { keyPolicy := .primary, tracedLength := 0 }]

/-- Two lengths of traced texts: the events differ, but not what the insert hands back. -/
theorem configuration_shows_in_keys_only_codedPerson :
    (Dialect.postgreSql.compiler.Indistinct (.after shortTraces) (.after wholeTraces)
          (.insert .oneRow) ∧
        (Dialect.postgreSql.compiler.observe (.after shortTraces) (.insert .oneRow) codedPerson
            {}).result =
          (Dialect.postgreSql.compiler.observe (.after wholeTraces) (.insert .oneRow) codedPerson
            {}).result ∧
        (Dialect.postgreSql.compiler.observe (.after shortTraces) (.insert .oneRow) codedPerson
            {}).events ≠
          (Dialect.postgreSql.compiler.observe (.after wholeTraces) (.insert .oneRow) codedPerson
            {}).events) ∧
      Dialect.postgreSql.compiler.keyPolicy = none ∧
        (Dialect.postgreSql.compiler.observe (.after shortTraces) (.insert .oneRow) codedPerson
            {}).result = .ok codedPersonInsert ∧
        ((Dialect.postgreSql.compiler.withPolicy .primary).observe .initial (.insert .oneRow)
            codedPerson {}).result = .ok codedPersonInsert := by
  have indistinct : Dialect.postgreSql.compiler.Indistinct (.after shortTraces)
      (.after wholeTraces) (.insert .oneRow) := .samePolicy rfl
  have without : Dialect.postgreSql.compiler.keyPolicy = none := rfl
  have inserted : (Dialect.postgreSql.compiler.observe (.after shortTraces) (.insert .oneRow)
      codedPerson {}).result = .ok codedPersonInsert := by
    rw [observe_result, text_eq_map_joined]
    decide +kernel
  obtain ⟨-, unseen, shared⟩ := configuration_shows_in_keys_only Dialect.postgreSql.compiler
  refine ⟨⟨indistinct, (unseen _ _ _ indistinct codedPerson {}).1, by decide +kernel⟩, without,
    inserted, ?_⟩
  exact (shared shortTraces .initial without (.insert .oneRow) codedPerson {}).symm.trans inserted

/-- The policy itself does show: the generated number is reported instead of the code. -/
example : (Dialect.postgreSql.compiler.observe .initial (.insert .oneRow) codedPerson {}).result =
    .ok ("INSERT INTO \"Person\" ( \"Code\", \"Name\" ) VALUES ( @Code, @Name ) " ++
      "RETURNING \"Id\" AS \"Result\" ;") := by
  rw [observe_result, text_eq_map_joined]
  decide +kernel

end Compiler

end SqlCompiler
