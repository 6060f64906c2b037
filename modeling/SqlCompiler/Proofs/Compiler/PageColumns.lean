import Mathlib.Data.List.Nodup
import SqlCompiler.Proofs.Compiler.Plan
import SqlCompiler.Proofs.Identifier.SameName

/-!
# What the outer selection of a page can refer to

SQL Server numbers the rows of a page in an inner selection and cuts them out
in an outer one.  The outer selection sees the columns of the inner one only:
the row number and the requested fields.  It refers to all of these, and to the
sort keys, by which the page is sorted once more.  No check relates the sort
keys to the fields, or the fields to each other and to the row number, so the
references are clear exactly if the names happen to fit together.
-/

namespace SqlCompiler

namespace Setting

/-- A name denotes exactly one of some columns. -/
def Resolves (setting : Setting) (columns : List String) (name : String) : Prop :=
  columns.countP (fun column => setting.sameName column name) = 1

instance (setting : Setting) (columns : List String) (name : String) :
    Decidable (setting.Resolves columns name) :=
  inferInstanceAs (Decidable (_ = _))

variable {setting : Setting} {columns : List String} {name : String}

theorem resolves_iff_count :
    setting.Resolves columns name ↔
      (columns.map setting.comparedName).count (setting.comparedName name) = 1 := by
  rw [Resolves, List.count, List.countP_map]
  rfl

/-- All columns denote themselves exactly if no two of them have the same name. -/
theorem forall_resolves_iff_nodup :
    (∀ column ∈ columns, setting.Resolves columns column) ↔
      (columns.map setting.comparedName).Nodup := by
  simp only [resolves_iff_count, List.nodup_iff_count_eq_one, List.forall_mem_map]

/-- Among columns with different names a name denotes one exactly if some column has it. -/
theorem resolves_iff_exists (distinct : (columns.map setting.comparedName).Nodup) :
    setting.Resolves columns name ↔ ∃ column ∈ columns, setting.sameName column name = true := by
  have count_le := List.nodup_iff_count_le_one.mp distinct (setting.comparedName name)
  simp only [sameName_iff, ← List.mem_map]
  rw [resolves_iff_count, ← List.count_pos_iff]
  omega

end Setting

/-- What the rows of the inner selection consist of: their number and some columns. -/
structure NumberedRows where
  number : String
  listed : List String

namespace NumberedRows

/-- The columns that are visible outside of the inner selection. -/
def columns (source : NumberedRows) : List String :=
  source.number :: source.listed

/-- The words of an inner selection that numbers the rows of a request. -/
def words (source : NumberedRows) (setting : Setting) (request : Request) : List String :=
  ["WITH", "CTE", "AS", "(", "SELECT", "ROW_NUMBER()", "OVER", "("] ++
    Clause.order setting request.order ++
    [")", "AS " ++ setting.quote source.number ++ ",",
      Clause.commaList (source.listed.map setting.quote), "FROM"] ++
    request.target.words setting ++
    Clause.condition setting request.effectiveFilter 0 ++ [")"]

end NumberedRows

/-- The columns that an outer selection refers to, by the clause in which it does. -/
structure PageReferences where
  selected : List String
  number : String
  sorted : List SortKey

namespace PageReferences

def names (references : PageReferences) : List String :=
  references.selected ++ references.number :: references.sorted.map (·.name)

/-- The words of an outer selection that cuts a page out of numbered rows. -/
def words (references : PageReferences) (setting : Setting) (page : Request.Page) :
    List String :=
  ["SELECT", Clause.commaList (references.selected.map setting.quote), "FROM", "CTE",
    "WHERE (" ++ setting.quote references.number ++ " BETWEEN " ++
      toString (page.offset + 1) ++ " AND " ++ toString page.last ++ ")",
    "ORDER BY", Clause.commaList (references.sorted.map (·.text setting))]

end PageReferences

namespace Request

variable {request : Request} {setting : Setting}

def numberedRows (request : Request) : NumberedRows where
  number := "RowNumber"
  listed := request.fields.map (·.name)

def pageReferences (request : Request) : PageReferences where
  selected := request.fields.map (·.name)
  number := "RowNumber"
  sorted := request.order

/-- The requested fields and the row number have different names, and every sort key has one. -/
structure NamesFit (request : Request) (setting : Setting) : Prop where
  distinct : request.fields.Pairwise fun first second =>
    setting.sameName first.name second.name = false
  unreserved : ∀ field ∈ request.fields, setting.sameName "RowNumber" field.name = false
  sorted : ∀ key ∈ request.order, setting.sameName "RowNumber" key.name = true ∨
    Field.anyNamed request.fields setting key.name = true

theorem nodup_columns_numberedRows_iff :
    (request.numberedRows.columns.map setting.comparedName).Nodup ↔
      (∀ field ∈ request.fields, setting.sameName "RowNumber" field.name = false) ∧
        request.fields.Pairwise fun first second =>
          setting.sameName first.name second.name = false := by
  rw [NumberedRows.columns, numberedRows, List.Nodup, List.map_cons, List.pairwise_cons,
    List.map_map, List.forall_mem_map, List.pairwise_map]
  simp only [Setting.sameName_eq_false_iff, Function.comp_apply, ne_eq]

theorem exists_column_numberedRows_iff {name : String} :
    (∃ column ∈ request.numberedRows.columns, setting.sameName column name = true) ↔
      setting.sameName "RowNumber" name = true ∨
        Field.anyNamed request.fields setting name = true := by
  simp [NumberedRows.columns, numberedRows, Field.anyNamed]

/-- A page refers to all columns of its inner selection and to the sort keys. -/
theorem forall_names_pageReferences_iff {holds : String → Prop} :
    (∀ name ∈ request.pageReferences.names, holds name) ↔
      (∀ column ∈ request.numberedRows.columns, holds column) ∧
        ∀ key ∈ request.order, holds key.name := by
  rw [PageReferences.names, List.forall_mem_append, List.forall_mem_cons, List.forall_mem_map,
    NumberedRows.columns, List.forall_mem_cons, and_left_comm, ← and_assoc]
  exact Iff.rfl

/-- The references of a page are clear exactly if the names of the request fit together. -/
theorem forall_resolves_pageReferences_iff :
    (∀ name ∈ request.pageReferences.names,
        setting.Resolves request.numberedRows.columns name) ↔ request.NamesFit setting := by
  rw [forall_names_pageReferences_iff, Setting.forall_resolves_iff_nodup]
  constructor
  · rintro ⟨nodup, keys⟩
    obtain ⟨unreserved, distinct⟩ := nodup_columns_numberedRows_iff.mp nodup
    refine ⟨distinct, unreserved, fun key member => ?_⟩
    exact exists_column_numberedRows_iff.mp
      ((Setting.resolves_iff_exists nodup).mp (keys key member))
  · rintro ⟨distinct, unreserved, sorted⟩
    have nodup := nodup_columns_numberedRows_iff.mpr ⟨unreserved, distinct⟩
    refine ⟨nodup, fun key member => ?_⟩
    exact (Setting.resolves_iff_exists nodup).mpr
      (exists_column_numberedRows_iff.mpr (sorted key member))

end Request

namespace Compiler

variable {compiler : Compiler} {configuration : Configuration} {request : Request}
  {page rows : UInt64} {text : String}

/-- The words of a page are those of its inner selection and those of its outer one. -/
theorem words_selectPage {setting : Setting} (sorts : request.checkOrder = .ok ())
    (positions : Request.Page) :
    (pageStatement .sqlServer request rows positions).words setting =
      request.numberedRows.words setting request ++
        request.pageReferences.words setting positions ++ [terminator] := by
  have notEmpty : request.order.isEmpty = false := by
    unfold Request.checkOrder at sorts
    split at sorts
    next => cases sorts
    next some => simpa using some
  simp [pageStatement, Statement.words, Statement.body, Statement.selectPageWords,
    NumberedRows.words, PageReferences.words, Request.numberedRows, Request.pageReferences,
    Clause.columnList, Clause.order, notEmpty, Field.quoted, Function.comp_def]

/--
An accepted page is an inner and an outer selection, and every column that the
outer one refers to is exactly one column of the inner one if and only if the
fields differ from each other and from the row number and contain the sort
keys.
-/
theorem pageReferences_resolve_iff (chosen : compiler.dialect = some .sqlServer)
    (accepted : compiler.text configuration (.batchQuery page rows) request = .ok text) :
    (∃ positions, compiler.planPage request page rows = .ok positions ∧
      text = (StatementText.ofWords (request.numberedRows.words compiler.setting request ++
        request.pageReferences.words compiler.setting positions ++ [terminator])).finished) ∧
    ((∀ name ∈ request.pageReferences.names,
        compiler.setting.Resolves request.numberedRows.columns name) ↔
      request.NamesFit compiler.setting) := by
  refine ⟨?_, Request.forall_resolves_pageReferences_iff⟩
  obtain ⟨statements, compiled, rfl⟩ := text_eq_ok_iff.mp accepted
  obtain ⟨dialect, positions, known, planned, rfl⟩ := compile_batchQuery_eq_ok_iff.mp compiled
  obtain rfl : dialect = .sqlServer := Option.some.inj (known.symm.trans chosen)
  obtain ⟨-, -, sorts, -⟩ := planPage_eq_ok_iff.mp planned
  refine ⟨positions, planned, ?_⟩
  rw [written, Statement.allWords_singleton, words_selectPage sorts]

/-- A page that is sorted by its column, which is spelled in another way. -/
def listedSortKey : Request where
  table := "Item"
  fields := [{ name := "Name" }]
  order := [{ name := "[name]" }]

theorem pageReferences_resolve_iff_listedSortKey :
    Dialect.sqlServer.compiler.dialect = some .sqlServer ∧
      listedSortKey.NamesFit .sqlServer ∧
      ∃ text, Dialect.sqlServer.compiler.text .initial (.batchQuery 2 10) listedSortKey =
          .ok text ∧
        ∀ name ∈ listedSortKey.pageReferences.names,
          Setting.sqlServer.Resolves listedSortKey.numberedRows.columns name := by
  obtain ⟨text, accepted⟩ : ∃ text, Dialect.sqlServer.compiler.text .initial
      (.batchQuery 2 10) listedSortKey = .ok text :=
    ⟨_, text_eq_ok_iff.mpr ⟨_, rfl, rfl⟩⟩
  have fits : listedSortKey.NamesFit .sqlServer :=
    ⟨by decide +kernel, by decide +kernel, by decide +kernel⟩
  exact ⟨rfl, fits, text, accepted, (pageReferences_resolve_iff rfl accepted).2.mpr fits⟩

/-- A page that is sorted by a column that is not requested. -/
def unlistedSortKey : Request where
  table := "Item"
  fields := [{ name := "Name" }]
  order := [{ name := "Age" }]

/-- The outer selection sorts by a column that the inner one does not have. -/
theorem not_resolves_unlistedSortKey :
    Dialect.sqlServer.compiler.text .initial (.batchQuery 0 10) unlistedSortKey =
        .ok ("WITH CTE AS ( SELECT ROW_NUMBER() OVER ( ORDER BY [Age] ASC ) " ++
          "AS [RowNumber], [Name] FROM [Item] ) SELECT [Name] FROM CTE " ++
          "WHERE ([RowNumber] BETWEEN 1 AND 10) ORDER BY [Age] ASC ;") ∧
      ¬ ∀ name ∈ unlistedSortKey.pageReferences.names,
        Setting.sqlServer.Resolves unlistedSortKey.numberedRows.columns name := by
  refine ⟨by decide +kernel, fun resolves => ?_⟩
  have sorted : "Age" ∈ unlistedSortKey.pageReferences.names := by decide
  have unseen : ¬Setting.sqlServer.Resolves unlistedSortKey.numberedRows.columns "Age" := by
    decide +kernel
  exact unseen (resolves "Age" sorted)

end Compiler

end SqlCompiler
