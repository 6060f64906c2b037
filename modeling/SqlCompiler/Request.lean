import SqlCompiler.Column
import SqlCompiler.Filter.Basic
import SqlCompiler.Number.Word

/-!
# Requests and their checks

A request names a table and carries everything a statement can be compiled
from.  Before any text is written a request passes checks, in a fixed order
for each operation.  The common checks come first: hints only where they are
supported, a table name, and key columns that are flagged as such.
-/

namespace SqlCompiler

/-- What a statement is compiled from. -/
structure Request where
  table : String
  fields : List Field := []
  filter : Option Filter := none
  order : List SortKey := []
  qualifiers : List Field := []
  primaryColumn : Option Column := none
  identityColumn : Option Column := none
  columns : List Column := []
  batchSize : Nat := 1
  hints : Option String := none
  deriving Repr

namespace Request

/-- The declared primary column, else the first one of the schema. -/
def primary? (request : Request) : Option Column :=
  request.primaryColumn.or (Column.findPrimary? request.columns)

/-- The declared identity column, else the first one of the schema. -/
def identity? (request : Request) : Option Column :=
  request.identityColumn.or (Column.findIdentity? request.columns)

/-- The number of rows of a batch; a batch has at least one. -/
def rows (request : Request) : Nat :=
  max request.batchSize 1

def hasHints (request : Request) : Bool :=
  request.hints.any (fun hints => !Text.isBlank hints)

def effectiveFilter (request : Request) : Option Filter :=
  request.filter.filter (fun filter => !filter.isEmpty)

def checkHints (request : Request) (setting : Setting) : Except CompileError Unit :=
  if request.hasHints && !setting.allowsHints then .error .hintsNotSupported else .ok ()

def checkTable (request : Request) : Except CompileError Unit :=
  if Text.isBlank request.table then .error .blankTableName else .ok ()

def checkPrimary (request : Request) : Except CompileError Unit :=
  match request.primaryColumn with
  | some column =>
      if column.isPrimary then .ok () else .error (.primaryNotFlagged column.name)
  | none => .ok ()

def checkIdentity (request : Request) : Except CompileError Unit :=
  match request.identityColumn with
  | some column =>
      if column.isIdentity then .ok () else .error (.identityNotFlagged column.name)
  | none => .ok ()

def checkCommon (request : Request) (setting : Setting) : Except CompileError Unit := do
  request.checkHints setting
  request.checkTable
  request.checkPrimary
  request.checkIdentity

def checkBatch (request : Request) (setting : Setting) : Except CompileError Unit :=
  if 1 < request.rows && !setting.allowsSeveralStatements then
    .error (.batchNotSupported request.batchSize)
  else .ok ()

def checkFields (request : Request) : Except CompileError Unit :=
  if request.fields.isEmpty then .error .noFields else .ok ()

/-- If there is a schema, every field is one of its columns. -/
def checkMapping (request : Request) (setting : Setting) : Except CompileError Unit :=
  if request.columns.isEmpty then .ok ()
  else
    match request.fields.find?
        (fun field => (Column.findNamed? request.columns setting field.name).isNone) with
    | some field => .error (.unmappedField field.name request.table)
    | none => .ok ()

def checkNoHints (request : Request) : Except CompileError Unit :=
  if request.hasHints then .error .hintsOnTruncate else .ok ()

def checkOrder (request : Request) : Except CompileError Unit :=
  if request.order.isEmpty then .error .noOrder else .ok ()

def candidateQualifiers (request : Request) : Except CompileError (List Field) :=
  if !request.qualifiers.isEmpty then .ok request.qualifiers
  else
    match request.primary? with
    | some column => .ok [column.field]
    | none => .error (.noQualifiers request.table)

/-- The fields by which existing rows are matched; each is one of the fields of the request. -/
def resolveQualifiers (request : Request) (setting : Setting) :
    Except CompileError (List Field) := do
  let qualifiers ← request.candidateQualifiers
  match qualifiers.find? (fun field => !Field.anyNamed request.fields setting field.name) with
  | some field => .error (.unlistedQualifier field.name)
  | none => .ok qualifiers

/-- The fields without the identity column; at least one is left. -/
def insertableFields (request : Request) (setting : Setting) :
    Except CompileError (List Field) :=
  let fields := Field.without request.fields setting (request.identity?.toList.map (·.name))
  if fields.isEmpty then .error (.noInsertableFields request.table) else .ok fields

/-- The fields without some qualifiers and the key columns. -/
def updatableFields (request : Request) (setting : Setting) (qualifiers : List Field) :
    List Field :=
  Field.without request.fields setting
    (qualifiers.map (·.name) ++ request.primary?.toList.map (·.name) ++
      request.identity?.toList.map (·.name))

/-- The fields without some qualifiers and the key columns; at least one is left. -/
def someUpdatableFields (request : Request) (setting : Setting) (qualifiers : List Field) :
    Except CompileError (List Field) :=
  let fields := request.updatableFields setting qualifiers
  if fields.isEmpty then .error (.noUpdatableFields request.table) else .ok fields

/-- The row positions of a page: those above `offset` up to `last`. -/
structure Page where
  offset : UInt64
  last : UInt64
  deriving DecidableEq, Repr

/-- The row positions of a numbered page, which must not go beyond the greatest word. -/
def resolvePage (page rows : UInt64) : Except CompileError Page :=
  if rows = 0 then .error .noRowsPerPage
  else
    let offset? := Word.product? page rows
    let last? := offset?.bind (fun offset => Word.sum? offset rows)
    match offset?, last? with
    | some offset, some last => .ok { offset, last }
    | _, _ => .error (.pageOutOfRange page.toNat rows.toNat)

/-- A batch never has zero rows. -/
theorem rows_pos (request : Request) : 0 < request.rows := by
  simp only [rows]
  omega

end Request

end SqlCompiler
