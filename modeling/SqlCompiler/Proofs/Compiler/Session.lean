import Mathlib.Data.List.Basic
import SqlCompiler.Compiler.Compile

/-!
# What an operation leaves in the text of its caller

A refusal keeps the text as it stands, so an operation leaves the text of its
caller alone only if no check comes behind its first step on the text.  Steps
that only write are described by their words, also where they are repeated for
the rows of a batch.  From that every operation is described as a whole: it
either refuses and keeps the text, or it puts its statements in place of it.
-/

namespace SqlCompiler

namespace Session

variable {α β : Type}

theorem runOn_bind (session : Session α) (rest : α → Session β) (before : StatementText) :
    runOn (session >>= rest) before =
      match runOn session before with
      | (.ok value, after) => runOn (rest value) after
      | (.error error, after) => (.error error, after) := by
  simp only [runOn, ExceptT.run_bind, StateT.run_bind]
  obtain ⟨result, after⟩ := (ExceptT.run session).run before
  cases result with
  | ok value => rfl
  | error error => rfl

@[simp]
theorem runOn_require (check : Except CompileError α) (before : StatementText) :
    runOn (require check) before = (check, before) :=
  rfl

@[simp]
theorem runOn_clear (before : StatementText) : runOn clear before = (.ok (), {}) :=
  rfl

/-- The session refuses nothing and adds some words to the text. -/
def Writes (session : Session Unit) (words : List String) : Prop :=
  ∀ before, runOn session before = (.ok (), before.writeAll words)

theorem writes_nothing : Writes (pure ()) [] := by
  intro before
  have unchanged : before.writeAll [] = before := by simp [StatementText.writeAll]
  rw [unchanged]
  rfl

theorem writes_write (word : String) : Writes (write word) [word] :=
  fun _ => rfl

theorem Writes.append {first second : Session Unit} {words others : List String}
    (firstWrites : Writes first words) (secondWrites : Writes second others) :
    Writes (first >>= fun _ => second) (words ++ others) := by
  intro before
  rw [runOn_bind, firstWrites before]
  exact (secondWrites _).trans (by rw [StatementText.writeAll_append])

/-- Repeated steps write the words of every step, one after the other. -/
theorem writes_forM {step : α → Session Unit} {words : α → List String}
    (stepWrites : ∀ item, Writes (step item) (words item)) (items : List α) :
    Writes (items.forM step) (items.flatMap words) := by
  induction items with
  | nil => exact writes_nothing
  | cons item items ih =>
      rw [List.flatMap_cons]
      exact (stepWrites item).append ih

theorem writes_writeStatement (setting : Setting) (statement : Statement) :
    Writes (writeStatement setting statement) (statement.words setting) := by
  have written := writes_forM writes_write (statement.words setting)
  rwa [List.flatMap_singleton'] at written

theorem writes_writeStatements (setting : Setting) (statements : List Statement) :
    Writes (writeStatements setting statements) (Statement.allWords setting statements) :=
  writes_forM (writes_writeStatement setting) statements

/--
The session keeps the text if an outcome is a refusal, and otherwise puts the
statements of the outcome in its place.
-/
def Replaces (setting : Setting) (session : Session Unit)
    (outcome : Except CompileError (List Statement)) : Prop :=
  ∀ before, runOn session before =
    match outcome with
    | .ok statements => (.ok (), .ofWords (Statement.allWords setting statements))
    | .error error => (.error error, before)

section Replaces

variable {setting : Setting}

theorem replaces_refusal (error : CompileError) :
    Replaces setting (require (.error error)) (.error error) :=
  fun _ => rfl

/-- What is written after the old text was dropped stands in its place. -/
theorem replaces_clear {session : Session Unit} {statements : List Statement}
    (writes : Writes session (Statement.allWords setting statements)) :
    Replaces setting (clear >>= fun _ => session) (.ok statements) := by
  intro before
  rw [runOn_bind, runOn_clear]
  exact writes {}

/-- A check in front of a session refuses before the session touches the text. -/
theorem Replaces.require {check : Except CompileError α} {rest : α → Session Unit}
    {outcome : α → Except CompileError (List Statement)}
    (restReplaces : ∀ value, Replaces setting (rest value) (outcome value)) :
    Replaces setting (require check >>= rest) (check >>= outcome) := by
  intro before
  rw [runOn_bind, runOn_require]
  cases check with
  | ok value => exact restReplaces value before
  | error error => rfl

end Replaces

end Session

namespace Compiler

open Session

variable (compiler : Compiler) (configuration : Configuration) (request : Request)

theorem replaces_plainSession (statement : Statement) :
    Replaces compiler.setting (compiler.plainSession request statement)
      (request.checkCommon compiler.setting >>= fun _ => .ok [statement]) := by
  refine Replaces.require fun _ => replaces_clear ?_
  rw [Statement.allWords_singleton]
  exact writes_writeStatement compiler.setting statement

theorem replaces_truncateAtOnceSession :
    Replaces compiler.setting (compiler.truncateAtOnceSession request)
      (compiler.truncateAtOnce request) := by
  refine Replaces.require fun _ => Replaces.require fun _ => replaces_clear ?_
  rw [Statement.allWords_singleton]
  exact writes_writeStatement compiler.setting _

theorem replaces_truncateByDeletionSession :
    Replaces compiler.setting (compiler.truncateByDeletionSession request)
      (compiler.truncateByDeletion request) := by
  refine Replaces.require fun _ => Replaces.require fun _ => replaces_clear ?_
  rw [Statement.allWords, List.flatMap_cons, List.flatMap_singleton]
  exact (writes_writeStatement _ _).append (writes_writeStatement _ _)

theorem replaces_truncateSession :
    Replaces compiler.setting (compiler.truncateSession request) (compiler.truncate request) := by
  unfold truncateSession truncate
  split
  · exact compiler.replaces_truncateByDeletionSession request
  · exact compiler.replaces_truncateAtOnceSession request

theorem replaces_querySession (top : Option Nat) (scope : Scope) :
    Replaces compiler.setting (compiler.querySession request top scope)
      (compiler.query request top scope) := by
  refine Replaces.require fun _ => Replaces.require fun _ => replaces_clear ?_
  rw [Statement.allWords_singleton]
  exact writes_writeStatement compiler.setting _

theorem replaces_batchQuerySession (page rows : UInt64) :
    Replaces compiler.setting (compiler.batchQuerySession request page rows)
      (compiler.batchQuery request page rows) := by
  unfold batchQuerySession batchQuery
  cases compiler.dialect with
  | none => exact replaces_refusal .dialectRequired
  | some dialect =>
      refine Replaces.require fun positions => replaces_clear ?_
      rw [Statement.allWords_singleton]
      exact writes_writeStatement compiler.setting _

theorem replaces_insertRowByRowSession (extent : Extent) :
    Replaces compiler.setting (compiler.insertRowByRowSession configuration request extent)
      (compiler.insertRowByRow configuration request extent) := by
  refine Replaces.require fun plan => replaces_clear ?_
  rw [Statement.allWords, List.flatMap_assoc]
  exact writes_forM (fun row => writes_writeStatements compiler.setting _) _

theorem replaces_insertNumberedRowsSession :
    Replaces compiler.setting (compiler.insertNumberedRowsSession configuration request)
      (compiler.insertNumberedRows configuration request) := by
  unfold insertNumberedRowsSession insertNumberedRows
  split
  · exact compiler.replaces_insertRowByRowSession configuration request .oneRow
  · refine Replaces.require fun _ => Replaces.require fun _ => Replaces.require fun _ => ?_
    refine Replaces.require fun _ => Replaces.require fun fields => Replaces.require fun key => ?_
    exact replaces_clear (writes_writeStatements compiler.setting _)

theorem replaces_insertSession (extent : Extent) :
    Replaces compiler.setting (compiler.insertSession configuration request extent)
      (compiler.insert configuration request extent) := by
  unfold insertSession insert
  split
  · exact compiler.replaces_insertNumberedRowsSession configuration request
  · exact compiler.replaces_insertRowByRowSession configuration request _

theorem replaces_updateSession (extent : Extent) :
    Replaces compiler.setting (compiler.updateSession request extent)
      (compiler.update request extent) := by
  refine Replaces.require fun plan => replaces_clear ?_
  rw [Statement.allWords, List.flatMap_map]
  exact writes_forM (fun row => writes_writeStatement compiler.setting _) _

theorem replaces_mergeSession (extent : Extent) :
    Replaces compiler.setting (compiler.mergeSession configuration request extent)
      (compiler.merge configuration request extent) := by
  unfold mergeSession merge
  cases compiler.dialect with
  | none => exact replaces_refusal .dialectRequired
  | some dialect =>
      refine Replaces.require fun plan => replaces_clear ?_
      rw [Statement.allWords, List.flatMap_assoc]
      exact writes_forM (fun row => writes_writeStatements compiler.setting _) _

/-- The steps of every operation put in place of the text what the request compiles to. -/
theorem replaces_session (operation : Operation) :
    Replaces compiler.setting (compiler.session configuration request operation)
      (compiler.compile configuration operation request) := by
  cases operation with
  | count scope => exact compiler.replaces_plainSession request _
  | anyRow => exact compiler.replaces_plainSession request _
  | aggregate function field scope => exact compiler.replaces_plainSession request _
  | delete scope => exact compiler.replaces_plainSession request _
  | truncate => exact compiler.replaces_truncateSession request
  | insert extent => exact compiler.replaces_insertSession configuration request extent
  | update extent => exact compiler.replaces_updateSession request extent
  | query top => exact compiler.replaces_querySession request top .filtered
  | queryAll => exact compiler.replaces_querySession request none .allRows
  | batchQuery page rows => exact compiler.replaces_batchQuerySession request page rows
  | merge extent => exact compiler.replaces_mergeSession configuration request extent

/-- An operation on the text of its caller ends as the compiled request says. -/
theorem textOver_eq_compile (operation : Operation) (before : StatementText) :
    compiler.textOver configuration operation request before =
      match compiler.compile configuration operation request with
      | .ok statements => (.ok (compiler.written statements).finished, compiler.written statements)
      | .error error => (.error error, before) := by
  rw [textOver, runOn_bind, compiler.replaces_session configuration request operation before]
  cases compiler.compile configuration operation request with
  | ok statements => rfl
  | error error => rfl

/-- What was in the text before has no part in the result. -/
theorem textOver_fst (operation : Operation) (before : StatementText) :
    (compiler.textOver configuration operation request before).1 =
      compiler.text configuration operation request := by
  rw [textOver_eq_compile, text]
  cases compiler.compile configuration operation request with
  | ok statements => rfl
  | error error => rfl

/--
A refused operation leaves the text of its caller as it was, an accepted one
leaves its result there, and what was there before has no part in the result.
-/
theorem textOver_keeps_or_replaces (operation : Operation) :
    (∀ before error,
      (compiler.textOver configuration operation request before).1 = .error error →
        (compiler.textOver configuration operation request before).2 = before) ∧
    (∀ before sql,
      (compiler.textOver configuration operation request before).1 = .ok sql →
        (compiler.textOver configuration operation request before).2.finished = sql) ∧
    ∀ before,
      (compiler.textOver configuration operation request before).1 =
        compiler.text configuration operation request := by
  simp only [textOver_eq_compile, text]
  cases compiler.compile configuration operation request with
  | ok statements =>
      refine ⟨fun before error refused => ?_, fun before sql accepted => ?_, fun before => rfl⟩
      · cases refused
      · exact Except.ok.inj accepted
  | error error =>
      refine ⟨fun before other refused => rfl, fun before sql accepted => ?_, fun before => rfl⟩
      cases accepted

/-- A request for all values of one column, which has no qualifier for an update. -/
def oneColumn : Request where
  table := "Item"
  fields := [{ name := "Name" }]

def earlierText : StatementText where
  words := ["DELETE", "FROM", "[Item]", ";"]

theorem textOver_keeps_or_replaces_oneColumn :
    ((Dialect.sqlServer.compiler.textOver .initial (.update .oneRow) oneColumn earlierText).1 =
          .error (.noQualifiers "Item") ∧
        (Dialect.sqlServer.compiler.textOver .initial (.update .oneRow) oneColumn
          earlierText).2 = earlierText) ∧
      (Dialect.sqlServer.compiler.textOver .initial (.query none) oneColumn earlierText).1 =
          .ok "SELECT [Name] FROM [Item] ;" ∧
        (Dialect.sqlServer.compiler.textOver .initial (.query none) oneColumn
          earlierText).2.finished = "SELECT [Name] FROM [Item] ;" := by
  have refused : (Dialect.sqlServer.compiler.textOver .initial (.update .oneRow) oneColumn
      earlierText).1 = .error (.noQualifiers "Item") := rfl
  have accepted : (Dialect.sqlServer.compiler.textOver .initial (.query none) oneColumn
      earlierText).1 = .ok "SELECT [Name] FROM [Item] ;" := by decide +kernel
  obtain ⟨keeps, -, -⟩ := textOver_keeps_or_replaces Dialect.sqlServer.compiler .initial oneColumn
    (.update .oneRow)
  obtain ⟨-, replaces, -⟩ := textOver_keeps_or_replaces Dialect.sqlServer.compiler .initial
    oneColumn (.query none)
  exact ⟨⟨refused, keeps _ _ refused⟩, accepted, replaces _ _ accepted⟩

end Compiler

end SqlCompiler
