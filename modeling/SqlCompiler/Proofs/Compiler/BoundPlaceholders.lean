import SqlCompiler.Proofs.Compiler.RowPlaceholders

/-!
# When a text can be bound from the requested fields

A caller binds a value for every requested field and row.  The fields that are
stored are among the requested ones.  Qualifiers and the reported key are not:
they are looked up without quotes and case but written as they are spelled,
and a key that the database does not generate is read back through its own
parameter even if the request has no such field.  So a text refers only to
bound parameters exactly when these columns have the parameters of requested
fields.
-/

namespace SqlCompiler

/-- One of some fields has the same parameter as a column. -/
def Field.Bind (fields : List Field) (setting : Setting) (name : String) : Prop :=
  ∃ field ∈ fields, setting.parameterName field.name = setting.parameterName name

/-- The placeholder is the parameter of one of some fields, in a row below a bound. -/
def Placeholder.IsBound (inside : Placeholder) (setting : Setting) (fields : List Field)
    (rows : Nat) : Prop :=
  inside.row < rows ∧
    ∃ field ∈ fields, inside.name = withRow (setting.parameterName field.name) inside.row

instance (inside : Placeholder) (setting : Setting) (fields : List Field) (rows : Nat) :
    Decidable (inside.IsBound setting fields rows) :=
  inferInstanceAs (Decidable (_ ∧ _))

namespace RowFields

/-- The columns whose placeholders the statements of a row have. -/
def all (fields : RowFields) : List Field :=
  fields.stored ++ fields.compared ++ fields.reported

theorem exists_field_of_mem {fields : RowFields} {setting : Setting} {row : Nat}
    {inside : Placeholder} (member : inside ∈ fields.placeholders setting row) :
    ∃ field ∈ fields.all, ∃ role, inside = field.placeholder setting role row := by
  simp only [placeholders, Field.placeholders, List.mem_append, List.mem_map] at member
  obtain (⟨field, within, rfl⟩ | ⟨field, within, rfl⟩) | ⟨field, within, rfl⟩ := member
  · exact ⟨field, by simp [all, within], .stored, rfl⟩
  · exact ⟨field, by simp [all, within], .compared, rfl⟩
  · exact ⟨field, by simp [all, within], .reported, rfl⟩

theorem exists_placeholder_of_mem {fields : RowFields} {field : Field}
    (member : field ∈ fields.all) (setting : Setting) (row : Nat) :
    ∃ role, field.placeholder setting role row ∈ fields.placeholders setting row := by
  simp only [all, List.mem_append] at member
  simp only [placeholders, Field.placeholders, List.mem_append]
  obtain (stored | compared) | reported := member
  · exact ⟨.stored, .inl (.inl (List.mem_map_of_mem stored))⟩
  · exact ⟨.compared, .inl (.inr (List.mem_map_of_mem compared))⟩
  · exact ⟨.reported, .inr (List.mem_map_of_mem reported)⟩

/-- The placeholders of all rows are bound exactly when the columns of one row are. -/
theorem forall_isBound_iff (fields : RowFields) (setting : Setting) (requested : List Field)
    {rows : Nat} (positive : 0 < rows) :
    (∀ inside ∈ (List.range rows).flatMap (fields.placeholders setting),
        inside.IsBound setting requested rows) ↔
      ∀ field ∈ fields.all, Field.Bind requested setting field.name := by
  constructor
  · -- Every row has the columns of the first one.
    intro bound field member
    obtain ⟨role, written⟩ := exists_placeholder_of_mem member setting 0
    obtain ⟨-, other, requestedMem, name⟩ :=
      bound _ (List.mem_flatMap.mpr ⟨0, List.mem_range.mpr positive, written⟩)
    exact ⟨other, requestedMem, by simpa using name.symm⟩
  · intro bind inside member
    obtain ⟨row, within, written⟩ := List.mem_flatMap.mp member
    obtain ⟨field, fieldMem, role, rfl⟩ := exists_field_of_mem written
    obtain ⟨other, requestedMem, name⟩ := bind field fieldMem
    exact ⟨List.mem_range.mp within, other, requestedMem, by simp [name]⟩

/-- Stored fields that are requested are bound, so only the other columns count. -/
theorem forall_bind_iff {fields : RowFields} {setting : Setting} {requested : List Field}
    (stored : fields.stored ⊆ requested) :
    (∀ field ∈ fields.all, Field.Bind requested setting field.name) ↔
      (∀ field ∈ fields.compared, Field.Bind requested setting field.name) ∧
        ∀ field ∈ fields.reported, Field.Bind requested setting field.name := by
  simp only [all, List.forall_mem_append]
  constructor
  · rintro ⟨⟨-, compared⟩, reported⟩
    exact ⟨compared, reported⟩
  · rintro ⟨compared, reported⟩
    exact ⟨⟨fun field member => ⟨field, stored member, rfl⟩, compared⟩, reported⟩

end RowFields

namespace Compiler

/-- The operation writes all its parameters for the rows of an extent; it heeds no filter. -/
inductive WritesRows (request : Request) : Operation → Extent → Prop where
  | insert (extent : Extent) : WritesRows request (.insert extent) extent
  | merge (extent : Extent) : WritesRows request (.merge extent) extent
  | update {extent : Extent} (unfiltered : heededFilter request extent = none) :
      WritesRows request (.update extent) extent

/-- The reported key of an operation is read back through its own parameter. -/
def readsBack (compiler : Compiler) (operation : Operation) (request : Request) (key : Column) :
    Bool :=
  match operation with
  | .insert extent => compiler.readsBackInserted (extent.rows request) key
  | .merge _ =>
      compiler.dialect.any (fun dialect =>
        readsBackMerged compiler.setting dialect request.fields key)
  | _ => false

/-- The columns that are not requested as fields have the parameters of requested fields. -/
structure OthersBound (compiler : Compiler) (configuration : Configuration)
    (operation : Operation) (request : Request) : Prop where
  qualifiers : ∀ extent, operation = .update extent → ∀ qualifiers,
    request.resolveQualifiers compiler.setting = .ok qualifiers →
      ∀ field ∈ qualifiers, Field.Bind request.fields compiler.setting field.name
  key : ∀ key, compiler.reportedKey configuration request = .ok (some key) →
    compiler.readsBack operation request key = true →
      Field.Bind request.fields compiler.setting key.name

theorem forall_keyFields_iff {readsBack : Column → Bool} {key : Option Column}
    {property : Field → Prop} :
    (∀ field ∈ keyFields readsBack key, property field) ↔
      ∀ column, key = some column → readsBack column = true → property column.field := by
  simp only [keyFields, List.forall_mem_map, Option.mem_toList,
    Option.filter_eq_some_iff, and_imp]

section Statements

variable {compiler : Compiler} {configuration : Configuration} {request : Request}
  {extent : Extent} {statements : List Statement}

theorem forall_isBound_insert_iff
    (compiled : compiler.compile configuration (.insert extent) request = .ok statements) :
    (∀ inside ∈ Statement.allPlaceholders compiler.setting statements,
        inside.IsBound compiler.setting request.fields (extent.rows request)) ↔
      OthersBound compiler configuration (.insert extent) request := by
  obtain ⟨plan, planned, rfl⟩ := compile_insert_eq_ok_iff.mp compiled
  obtain ⟨-, -, -, -, kept, reported⟩ := planInsert_eq_ok_iff.mp planned
  rw [placeholders_insertStatements,
    RowFields.forall_isBound_iff _ _ _ (extent.rows_pos request),
    RowFields.forall_bind_iff (Request.insertableFields_subset kept)]
  simp only [insertedFields, forall_keyFields_iff]
  constructor
  · rintro ⟨-, bound⟩
    refine ⟨by simp, fun key resolved reads => bound key ?_ reads⟩
    exact Except.ok.inj (reported.symm.trans resolved)
  · intro others
    refine ⟨by simp, fun key planKey reads => others.key key ?_ reads⟩
    rw [reported, planKey]

theorem forall_isBound_merge_iff
    (compiled : compiler.compile configuration (.merge extent) request = .ok statements) :
    (∀ inside ∈ Statement.allPlaceholders compiler.setting statements,
        inside.IsBound compiler.setting request.fields (extent.rows request)) ↔
      OthersBound compiler configuration (.merge extent) request := by
  obtain ⟨dialect, plan, known, planned, rfl⟩ := compile_merge_eq_ok_iff.mp compiled
  obtain ⟨-, -, -, -, sameFields, -, -, -, reported⟩ := planMerge_eq_ok_iff.mp planned
  rw [placeholders_merges, RowFields.forall_isBound_iff _ _ _ (extent.rows_pos request),
    RowFields.forall_bind_iff (by simp [mergedFields, sameFields])]
  simp only [mergedFields, forall_keyFields_iff, sameFields]
  constructor
  · rintro ⟨-, bound⟩
    refine ⟨by simp, fun key resolved reads => bound key ?_ ?_⟩
    · exact Except.ok.inj (reported.symm.trans resolved)
    · simpa [readsBack, known] using reads
  · intro others
    refine ⟨by simp, fun key planKey reads => others.key key ?_ ?_⟩
    · rw [reported, planKey]
    · simpa [readsBack, known] using reads

theorem forall_isBound_update_iff (unfiltered : heededFilter request extent = none)
    (compiled : compiler.compile configuration (.update extent) request = .ok statements) :
    (∀ inside ∈ Statement.allPlaceholders compiler.setting statements,
        inside.IsBound compiler.setting request.fields (extent.rows request)) ↔
      OthersBound compiler configuration (.update extent) request := by
  obtain ⟨⟨fields, condition⟩, planned, rfl⟩ := compile_update_eq_ok_iff.mp compiled
  obtain ⟨-, -, -, qualified⟩ := planUpdate_eq_ok_iff.mp planned
  rw [unfiltered] at qualified
  obtain ⟨qualifiers, resolved, kept, rfl⟩ := planQualifiedUpdate_eq_ok_iff.mp qualified
  obtain ⟨rfl, -⟩ := Request.someUpdatableFields_eq_ok_iff.mp kept
  rw [placeholders_updates, RowFields.forall_isBound_iff _ _ _ (extent.rows_pos request),
    RowFields.forall_bind_iff Request.updatableFields_subset]
  constructor
  · rintro ⟨bound, -⟩
    refine ⟨?_, by simp [readsBack]⟩
    intro _ _ others othersResolved
    obtain rfl : qualifiers = others := Except.ok.inj (resolved.symm.trans othersResolved)
    exact bound
  · intro others
    exact ⟨others.qualifiers extent rfl qualifiers resolved, by simp⟩

end Statements

/--
A text refers only to parameters of requested fields exactly when the
qualifiers of an update and a key that is read back have such parameters.
-/
theorem placeholders_isBound_iff {compiler : Compiler} {configuration : Configuration}
    {operation : Operation} {request : Request} {extent : Extent} {statements : List Statement}
    (writes : WritesRows request operation extent)
    (compiled : compiler.compile configuration operation request = .ok statements) :
    (∀ mark, (Statement.allFragments compiler.setting statements).map (Fragments.spell mark) =
        Statement.allWords (compiler.setting.withMark mark) statements) ∧
      ((∀ inside ∈ Statement.allPlaceholders compiler.setting statements,
          inside.IsBound compiler.setting request.fields (extent.rows request)) ↔
        OthersBound compiler configuration operation request) := by
  refine ⟨Statement.map_spell_allFragments compiler.setting statements, ?_⟩
  cases writes with
  | insert => exact forall_isBound_insert_iff compiled
  | merge => exact forall_isBound_merge_iff compiled
  | update unfiltered => exact forall_isBound_update_iff unfiltered compiled

def requestedKey : Request where
  table := "Item"
  fields := [{ name := "Id" }, { name := "Name" }]
  primaryColumn := some (.primary "Id")

def requestedKeyInsert : List Statement :=
  [.insert requestedKey.target requestedKey.fields 0 none,
    .selectKey { expression := .parameter "Id" 0, row := none }]

theorem placeholders_isBound_iff_requestedKey :
    WritesRows requestedKey (.insert .oneRow) .oneRow ∧
      Dialect.sqlServer.compiler.compile .initial (.insert .oneRow) requestedKey =
        .ok requestedKeyInsert ∧
      ((∀ inside ∈ Statement.allPlaceholders .sqlServer requestedKeyInsert,
          inside.IsBound .sqlServer requestedKey.fields 1) ↔
        OthersBound Dialect.sqlServer.compiler .initial (.insert .oneRow) requestedKey) := by
  have compiled : Dialect.sqlServer.compiler.compile .initial (.insert .oneRow) requestedKey =
      .ok requestedKeyInsert := rfl
  exact ⟨.insert .oneRow, compiled, (placeholders_isBound_iff (.insert .oneRow) compiled).2⟩

/-- A key that the database does not generate and the request does not write. -/
def unrequestedKey : Request where
  table := "Item"
  fields := [{ name := "Name" }]
  primaryColumn := some (.primary "Id")

def unrequestedKeyInsert : List Statement :=
  [.insert unrequestedKey.target unrequestedKey.fields 0 none,
    .selectKey { expression := .parameter "Id" 0, row := none }]

/-- The key is read back through a parameter that no requested field binds. -/
theorem not_isBound_unrequestedKey :
    Dialect.sqlServer.compiler.compile .initial (.insert .oneRow) unrequestedKey =
        .ok unrequestedKeyInsert ∧
      ¬ ∀ inside ∈ Statement.allPlaceholders .sqlServer unrequestedKeyInsert,
        inside.IsBound .sqlServer unrequestedKey.fields 1 := by
  refine ⟨rfl, ?_⟩
  decide +kernel

end Compiler

end SqlCompiler
