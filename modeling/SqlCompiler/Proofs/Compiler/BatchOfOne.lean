import SqlCompiler.Proofs.Compiler.Session
import SqlCompiler.Proofs.Compiler.WrittenConditions

/-!
# A batch of one row

A batch makes one check that a single row does not need, numbers its rows, and
on SQL Server has a statement of its own.  None of this shows in a batch of one
row, nor in a batch of none, which counts as one: it is refused for the same
reasons, in the same order, or written in the same words as the single row.
Only an update can still tell them apart, since a batch never heeds a filter.
-/

namespace SqlCompiler

variable {compiler : Compiler} {configuration : Configuration} {request : Request}

theorem Request.rows_eq_one_of_le (few : request.batchSize ≤ 1) : request.rows = 1 := by
  simp only [rows]
  omega

namespace Extent

theorem rows_of_few (few : request.batchSize ≤ 1) (extent : Extent) :
    extent.rows request = 1 := by
  cases extent with
  | oneRow => rfl
  | batch => exact Request.rows_eq_one_of_le few

/-- A batch of one row needs no database that executes several statements. -/
theorem check_of_few (few : request.batchSize ≤ 1) (setting : Setting) (extent : Extent) :
    extent.check request setting = .ok () := by
  have one := Request.rows_eq_one_of_le few
  cases extent with
  | oneRow => rfl
  | batch => simp [check, Request.checkBatch, one]

end Extent

namespace Compiler

/-- Two operations give the same result, and leave the same text of their caller behind. -/
def Coincide (compiler : Compiler) (configuration : Configuration) (request : Request)
    (first second : Operation) : Prop :=
  compiler.text configuration first request = compiler.text configuration second request ∧
    ∀ before, compiler.textOver configuration first request before =
      compiler.textOver configuration second request before

theorem coincide_of_compile_eq {first second : Operation}
    (same : compiler.compile configuration first request =
      compiler.compile configuration second request) :
    compiler.Coincide configuration request first second := by
  refine ⟨?_, fun before => ?_⟩
  · rw [text, same]
    rfl
  · rw [textOver_eq_compile, textOver_eq_compile, same]

section Plans

variable (few : request.batchSize ≤ 1)

include few

theorem planInsert_batch_of_few :
    compiler.planInsert configuration request .batch =
      compiler.planInsert configuration request .oneRow := by
  simp only [planInsert, Extent.check_of_few few]

theorem planMerge_batch_of_few :
    compiler.planMerge configuration request .batch =
      compiler.planMerge configuration request .oneRow := by
  simp only [planMerge, Extent.check_of_few few]

/-- Without a filter to heed, an update of one row looks at its qualifiers as well. -/
theorem planUpdate_batch_of_few (unfiltered : request.effectiveFilter = none) :
    compiler.planUpdate request .batch = compiler.planUpdate request .oneRow := by
  simp only [planUpdate, Extent.check_of_few few, unfiltered]

theorem compile_insert_batch_of_few :
    compiler.compile configuration (.insert .batch) request =
      compiler.compile configuration (.insert .oneRow) request := by
  simp only [compile, insert_eq, Extent.rows_of_few few, planInsert_batch_of_few few]

theorem compile_merge_batch_of_few :
    compiler.compile configuration (.merge .batch) request =
      compiler.compile configuration (.merge .oneRow) request := by
  simp only [compile, merge, Extent.rows_of_few few, planMerge_batch_of_few few]

theorem compile_update_batch_of_few (unfiltered : request.effectiveFilter = none) :
    compiler.compile configuration (.update .batch) request =
      compiler.compile configuration (.update .oneRow) request := by
  simp only [compile, update, Extent.rows_of_few few, planUpdate_batch_of_few few unfiltered]

end Plans

/--
A batch of at most one row is refused or written as the single row is; for an
update this needs that the request has no filter with a comparator in it.
-/
theorem batch_coincides_with_oneRow (compiler : Compiler) (configuration : Configuration)
    (few : request.batchSize ≤ 1) :
    compiler.Coincide configuration request (.insert .batch) (.insert .oneRow) ∧
    compiler.Coincide configuration request (.merge .batch) (.merge .oneRow) ∧
    ((∀ tree, request.filter = some tree → tree.comparators = []) →
      compiler.Coincide configuration request (.update .batch) (.update .oneRow)) := by
  refine ⟨coincide_of_compile_eq (compile_insert_batch_of_few few),
    coincide_of_compile_eq (compile_merge_batch_of_few few), fun unfiltered => ?_⟩
  exact coincide_of_compile_eq (compile_update_batch_of_few few
    (Request.effectiveFilter_eq_none_iff.mpr unfiltered))

/-- A batch of no rows, with a filter that holds a group but no comparator. -/
def emptyBatch : Request where
  table := "Item"
  fields := [{ name := "Id" }, { name := "Name" }]
  filter := some { items := .group .or true .nil .nil }
  primaryColumn := some (.primary "Id")
  batchSize := 0

theorem batch_coincides_with_oneRow_emptyBatch :
    emptyBatch.batchSize ≤ 1 ∧
      (∀ tree, emptyBatch.filter = some tree → tree.comparators = []) ∧
      Dialect.sqlServer.compiler.text .initial (.insert .batch) emptyBatch =
        .ok ("INSERT INTO [Item] ( [Id], [Name] ) VALUES ( @Id, @Name ) ; " ++
          "SELECT @Id AS [Result] ;") ∧
      Dialect.sqlServer.compiler.Coincide .initial emptyBatch (.insert .batch)
        (.insert .oneRow) ∧
      Dialect.sqlServer.compiler.Coincide .initial emptyBatch (.merge .batch) (.merge .oneRow) ∧
      Dialect.sqlServer.compiler.Coincide .initial emptyBatch (.update .batch)
        (.update .oneRow) := by
  have few : emptyBatch.batchSize ≤ 1 := by decide
  have unfiltered : ∀ tree, emptyBatch.filter = some tree → tree.comparators = [] := by
    intro tree given
    cases given
    rfl
  obtain ⟨inserts, merges, updates⟩ :=
    batch_coincides_with_oneRow Dialect.sqlServer.compiler .initial few
  exact ⟨few, unfiltered, by decide +kernel, inserts, merges, updates unfiltered⟩

end Compiler

end SqlCompiler
