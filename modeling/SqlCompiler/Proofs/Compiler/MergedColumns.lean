import Mathlib.Data.List.Infix
import SqlCompiler.Proofs.Compiler.BatchRows
import SqlCompiler.Proofs.Identifier.SameName

/-!
# The columns of merged rows

A merged row names columns in up to five lists: those that it supplies, those
by which an existing row is found, those that are inserted with their values,
and those that are assigned.  The lists are made from the requested fields, the
qualifiers and the key columns, and every dialect uses them in its own way.
Whatever the dialect is, no list names a column that the row does not supply,
and what is assigned are the other columns, neither keys nor qualifiers.  The
text of a row is spelled from these lists, each in the form of the dialect.
-/

namespace SqlCompiler

namespace Request

variable {request : Request} {setting : Setting} {qualifiers : List Field}

def isIdentity (request : Request) (setting : Setting) (field : Field) : Bool :=
  request.identity?.any fun key => setting.sameName field.name key.name

def isPrimary (request : Request) (setting : Setting) (field : Field) : Bool :=
  request.primary?.any fun key => setting.sameName field.name key.name

/-- The field finds rows or belongs to their key, so it is left as it is. -/
def isKept (request : Request) (setting : Setting) (qualifiers : List Field) (field : Field) :
    Bool :=
  (qualifiers.any fun qualifier => setting.sameName field.name qualifier.name) ||
    request.isPrimary setting field || request.isIdentity setting field

/-- The requested fields that may be assigned, in their order. -/
def freeFields (request : Request) (setting : Setting) (qualifiers : List Field) : List Field :=
  request.fields.filter fun field => !request.isKept setting qualifiers field

/-- The requested fields whose values the database does not generate. -/
def ungeneratedFields (request : Request) (setting : Setting) : List Field :=
  request.fields.filter fun field => !request.isIdentity setting field

theorem updatableFields_eq_freeFields :
    request.updatableFields setting qualifiers = request.freeFields setting qualifiers := by
  unfold updatableFields freeFields Field.without isKept isPrimary isIdentity
  cases request.primary? <;> cases request.identity? <;> simp [Function.comp_def, Bool.and_assoc]

theorem insertableFields_eq_ungeneratedFields {fields : List Field}
    (kept : request.insertableFields setting = .ok fields) :
    fields = request.ungeneratedFields setting := by
  obtain ⟨rfl, -⟩ := insertableFields_eq_ok_iff.mp kept
  unfold ungeneratedFields Field.without isIdentity
  cases request.identity? <;> simp

/-- A row supplies the columns by which it is found. -/
theorem anyNamed_of_mem_qualifiers (resolved : request.resolveQualifiers setting = .ok qualifiers)
    {field : Field} (member : field ∈ qualifiers) :
    Field.anyNamed request.fields setting field.name = true := by
  obtain ⟨candidates, -, checked⟩ := bind_eq_ok_iff.mp resolved
  split at checked
  next => cases checked
  next unlisted =>
    cases checked
    simpa using List.find?_eq_none.mp unlisted field member

end Request

open Parts

namespace Dialect

/-- The lists of a merged row in their order, each with how a dialect writes it. -/
def mergedLists (dialect : Dialect) (lists : MergeFields) (row : Nat) :
    List (ListForm × List Field) :=
  match dialect with
  | .sqlServer =>
      [(.namedPlaceholders row, lists.fields), (.matchEquations, lists.qualifiers),
        (.insertedColumns, lists.insertable), (.sourceColumns, lists.insertable)] ++
        if lists.updatable = [] then [] else [(.sourceEquations, lists.updatable)]
  | .postgreSql =>
      [(.newColumns, lists.fields), (.placeholders row, lists.fields),
        (.conflictColumns, lists.qualifiers)] ++
        if lists.updatable = [] then [] else [(.excludedEquations "EXCLUDED", lists.updatable)]
  | .mySql =>
      [(.newColumns, lists.fields), (.placeholders row, lists.fields),
        (.valuesEquations, if lists.updatable = [] then lists.qualifiers else lists.updatable)]
  | .sqlite =>
      [(.newColumns, lists.fields), (.placeholders row, lists.fields),
        (.conflictColumns, lists.qualifiers)] ++
        if lists.updatable = [] then [] else [(.excludedEquations "excluded", lists.updatable)]

/-- The fields that play a role in a merged row of a dialect. -/
def mergedColumns (dialect : Dialect) (lists : MergeFields) : ListRole → List Field
  | .supplied => lists.fields
  | .matched => if dialect = .mySql then [] else lists.qualifiers
  | .inserted | .value => if dialect = .sqlServer then lists.insertable else lists.fields
  | .assigned =>
      if dialect = .mySql ∧ lists.updatable = [] then lists.qualifiers else lists.updatable

theorem columns_mergedLists (dialect : Dialect) (lists : MergeFields) (row : Nat)
    (role : ListRole) :
    ((dialect.mergedLists lists row).flatMap fun list =>
        if role ∈ list.1.roles then list.2 else []) =
      dialect.mergedColumns lists role := by
  by_cases nothing : lists.updatable = [] <;> cases dialect <;> cases role <;>
    simp [mergedLists, mergedColumns, ListForm.roles, nothing]

theorem mem_mergedColumns {dialect : Dialect} {lists : MergeFields} {role : ListRole}
    {field : Field} (member : field ∈ dialect.mergedColumns lists role) :
    field ∈ lists.fields ∨ field ∈ lists.qualifiers ∨ field ∈ lists.insertable ∨
      field ∈ lists.updatable := by
  unfold mergedColumns at member
  split at member <;> (try split at member) <;> simp_all

end Dialect

/-- The fields of a merge with some qualifiers, by what may be done with them. -/
def Request.mergeFields (request : Request) (setting : Setting) (qualifiers : List Field) :
    MergeFields where
  fields := request.fields
  qualifiers := qualifiers
  insertable := request.ungeneratedFields setting
  updatable := request.freeFields setting qualifiers

/-- The lists of a merged row fit together, and they have the fields that they should have. -/
structure ColumnsConsistent (setting : Setting) (dialect : Dialect) (request : Request)
    (qualifiers : List Field) (row : Nat) (parts : List StatementPart) : Prop where
  lists : Parts.lists parts =
    dialect.mergedLists (request.mergeFields setting qualifiers) row
  supplied : columns .supplied parts = request.fields
  known : ∀ role, ∀ field ∈ columns role parts,
    Field.anyNamed (columns .supplied parts) setting field.name = true
  matched : columns .matched parts = if dialect = .mySql then [] else qualifiers
  inserted : columns .inserted parts =
    if dialect = .sqlServer then request.ungeneratedFields setting else request.fields
  values : columns .value parts = columns .inserted parts
  assigned : columns .assigned parts =
    if dialect = .mySql ∧ request.freeFields setting qualifiers = [] then qualifiers
    else request.freeFields setting qualifiers
  reassigned : dialect = .mySql → columns .assigned parts ≠ []
  whenMatched : dialect = .sqlServer →
    (["WHEN", "MATCHED"] <:+: keywords parts ↔ request.freeFields setting qualifiers ≠ [])
  doNothing : dialect = .postgreSql ∨ dialect = .sqlite →
    ("DO NOTHING" ∈ keywords parts ↔ request.freeFields setting qualifiers = [])

namespace Compiler

variable {compiler : Compiler} {configuration : Configuration} {request : Request}
  {extent : Extent} {text : String}

/-- Only the statement that writes the row has lists of columns. -/
theorem lists_mergeRow (setting : Setting) (dialect : Dialect) (target : Target)
    (plan : MergePlan) (batched : Bool) (row : Nat) :
    lists (Statement.allParts setting (mergeRow setting dialect target plan batched row)) =
      dialect.mergedLists plan.parts row := by
  have noLists (function : String) :
      (mergedKey setting function plan batched row).flatMap
        (fun statement => lists (statement.parts setting)) = [] := by
    unfold mergedKey
    cases plan.key <;> simp [keySelection]
  rw [Statement.lists_allParts]
  cases dialect <;> simp [mergeRow, Dialect.mergedLists, noLists]

/-- SQL Server has a branch for rows that exist only if there is something to assign. -/
theorem whenMatched_mergeRow (setting : Setting) (target : Target) (plan : MergePlan)
    (batched : Bool) (row : Nat) :
    ["WHEN", "MATCHED"] <:+: keywords
        (Statement.allParts setting (mergeRow setting .sqlServer target plan batched row)) ↔
      plan.parts.updatable ≠ [] := by
  cases key : plan.key <;> cases updatable : plan.parts.updatable <;>
    simp [mergeRow, Statement.allParts, Statement.parts_merge, Statement.mergeParts, key,
      updatable] <;>
    decide

/-- An insert that finds a row says to do nothing if there is nothing to assign. -/
theorem doNothing_mergeRow (setting : Setting) {dialect : Dialect} (target : Target)
    (plan : MergePlan) (batched : Bool) (row : Nat)
    (conflict : dialect = .postgreSql ∨ dialect = .sqlite) :
    "DO NOTHING" ∈ keywords
        (Statement.allParts setting (mergeRow setting dialect target plan batched row)) ↔
      plan.parts.updatable = [] := by
  obtain rfl | rfl := conflict
  · cases key : plan.key <;> cases updatable : plan.parts.updatable <;>
      simp [mergeRow, Statement.allParts, Statement.parts_upsert, Statement.upsertParts,
        Statement.valuesParts, Statement.conflictParts, key, updatable, terminator]
  · cases key : plan.key <;> cases updatable : plan.parts.updatable <;>
      simp [mergeRow, mergedKey, keySelection, Statement.allParts, Statement.parts_upsert,
        Statement.parts_selectKey, Statement.upsertParts, Statement.valuesParts,
        Statement.conflictParts, key, updatable, terminator]

theorem columnsConsistent_mergeRow {dialect : Dialect} {plan : MergePlan}
    (planned : compiler.planMerge configuration request extent = .ok plan) (target : Target)
    (batched : Bool) (row : Nat) :
    ColumnsConsistent compiler.setting dialect request plan.parts.qualifiers row
      (Statement.allParts compiler.setting
        (mergeRow compiler.setting dialect target plan batched row)) := by
  obtain ⟨-, -, -, -, fields, resolved, kept, updatable, -⟩ := planMerge_eq_ok_iff.mp planned
  have insertable := Request.insertableFields_eq_ungeneratedFields kept
  rw [Request.updatableFields_eq_freeFields] at updatable
  have lists := lists_mergeRow compiler.setting dialect target plan batched row
  have listed (role : ListRole) := (congrArg (List.flatMap _) lists).trans
    (dialect.columns_mergedLists plan.parts row role)
  have parts : plan.parts = request.mergeFields compiler.setting plan.parts.qualifiers := by
    rw [Request.mergeFields, ← fields, ← insertable, ← updatable]
  refine
    { lists := parts ▸ lists
      supplied := (listed .supplied).trans fields
      known := fun role field member => ?_
      matched := listed .matched
      inserted := ?_
      values := (listed .value).trans (listed .inserted).symm
      assigned := ?_
      reassigned := fun mySql => ?_
      whenMatched := ?_
      doNothing := fun conflict => ?_ }
  · rw [columns, listed] at member
    rw [columns, listed, Dialect.mergedColumns, fields]
    obtain found | found | found | found := Dialect.mem_mergedColumns member
    · exact Field.anyNamed_of_mem (fields ▸ found) _
    · exact Request.anyNamed_of_mem_qualifiers resolved found
    · exact Field.anyNamed_of_mem (Request.insertableFields_subset kept found) _
    · rw [updatable] at found
      exact Field.anyNamed_of_mem (List.filter_sublist.subset found) _
  · rw [columns, listed, Dialect.mergedColumns, insertable, fields]
  · rw [columns, listed, Dialect.mergedColumns, updatable]
  · rw [columns, listed, Dialect.mergedColumns]
    split
    next => exact Request.resolveQualifiers_ne_nil resolved
    next some => exact fun nothing => some ⟨mySql, nothing⟩
  · rintro rfl
    rw [← updatable]
    exact whenMatched_mergeRow compiler.setting target plan batched row
  · rw [← updatable]
    exact doNothing_mergeRow compiler.setting target plan batched row conflict

/--
The text of a merge is the texts of its rows, and in each of them the lists of
columns fit together: what is matched, inserted or assigned is supplied, values
stand beside their columns, and exactly the fields are assigned that are
neither qualifiers nor keys.
-/
theorem merged_columns_consistent
    (accepted : compiler.text configuration (.merge extent) request = .ok text) :
    ∃ dialect qualifiers row, compiler.dialect = some dialect ∧
      request.resolveQualifiers compiler.setting = .ok qualifiers ∧
      text = Statement.rowsText compiler.setting row (extent.rows request) ∧
      ∀ index, ColumnsConsistent compiler.setting dialect request qualifiers index
        (Statement.allParts compiler.setting (row index)) := by
  obtain ⟨statements, compiled, rfl⟩ := text_eq_ok_iff.mp accepted
  obtain ⟨dialect, plan, chosen, planned, rfl⟩ := compile_merge_eq_ok_iff.mp compiled
  obtain ⟨-, -, -, -, -, resolved, -⟩ := planMerge_eq_ok_iff.mp planned
  refine ⟨dialect, plan.parts.qualifiers, _, chosen, resolved,
    finished_written_rows (fun index => ?_) (extent.rows_pos request),
    fun index => columnsConsistent_mergeRow planned request.target _ index⟩
  cases dialect <;> exact List.cons_ne_nil _ _

/-- A numbered item that is found by its code, so that only its price can be assigned. -/
def numberedItem : Request where
  table := "Item"
  fields := [{ name := "Id" }, { name := "Code" }, { name := "Price" }]
  qualifiers := [{ name := "code" }]
  identityColumn := some (.identity "Id")

def numberedItemMerge : String :=
  "MERGE [Item] AS T USING ( SELECT @Id AS [Id], @Code AS [Code], @Price AS [Price] ) AS S " ++
    "ON ( T.[code] = S.[code] ) " ++
    "WHEN NOT MATCHED THEN INSERT ( [Code], [Price] ) VALUES ( S.[Code], S.[Price] ) " ++
    "WHEN MATCHED THEN UPDATE SET T.[Price] = S.[Price] OUTPUT INSERTED.[Id] AS [Result] ;"

theorem merged_columns_consistent_numberedItem :
    Dialect.sqlServer.compiler.text .initial (.merge .oneRow) numberedItem =
        .ok numberedItemMerge ∧
      numberedItem.resolveQualifiers .sqlServer = .ok numberedItem.qualifiers ∧
      ∃ row : Nat → List Statement, ∀ index,
        ColumnsConsistent .sqlServer .sqlServer numberedItem numberedItem.qualifiers index
          (Statement.allParts .sqlServer (row index)) ∧
        (columns .inserted (Statement.allParts .sqlServer (row index))).map (·.name) =
          ["Code", "Price"] ∧
        (columns .assigned (Statement.allParts .sqlServer (row index))).map (·.name) =
          ["Price"] := by
  have accepted : Dialect.sqlServer.compiler.text .initial (.merge .oneRow) numberedItem =
      .ok numberedItemMerge := by
    rw [text_eq_map_joined]
    decide +kernel
  have listed : Field.anyNamed numberedItem.fields .sqlServer "code" = true := by
    decide +kernel
  have resolved : numberedItem.resolveQualifiers .sqlServer = .ok numberedItem.qualifiers := by
    simp only [Request.resolveQualifiers, Request.candidateQualifiers, numberedItem] at listed ⊢
    simp [bind, Except.bind, listed]
  obtain ⟨dialect, qualifiers, row, chosen, found, -, consistent⟩ :=
    merged_columns_consistent accepted
  obtain rfl : .sqlServer = dialect := Option.some.inj chosen
  obtain rfl : numberedItem.qualifiers = qualifiers := Except.ok.inj (resolved.symm.trans found)
  refine ⟨accepted, resolved, row, fun index => ⟨consistent index, ?_, ?_⟩⟩
  · exact (congrArg (List.map Field.name) (consistent index).inserted).trans (by decide +kernel)
  · exact (congrArg (List.map Field.name) (consistent index).assigned).trans (by decide +kernel)

/-- Nothing is left to assign, and MySQL cannot leave its assignments out. -/
example : Dialect.mySql.compiler.text .initial (.merge .oneRow)
    { numberedItem with fields := [{ name := "Code" }], identityColumn := none } =
      .ok ("INSERT INTO \x60Item\x60 ( \x60Code\x60 ) VALUES ( @Code ) " ++
        "ON DUPLICATE KEY UPDATE \x60code\x60 = VALUES(\x60code\x60) ;") := by
  rw [text_eq_map_joined]
  decide +kernel

end Compiler

end SqlCompiler
