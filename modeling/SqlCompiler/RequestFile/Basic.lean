import SqlCompiler.Bag
import SqlCompiler.Operation
import SqlCompiler.Record.Field
import SqlCompiler.Record.Setting
import SqlCompiler.Request

/-!
# Request files

A request file is a TOML document.  It may name a dialect, set shared options
and override members of the setting, and it lists the entries to compile.  An
entry names an operation and a table and gives what the operation needs; its
filter and its order are bags.  No member may have a name that is not listed.
-/

namespace SqlCompiler

/-- An entry of a request file. -/
structure RequestEntry where
  name : Option String := none
  operation : OperationKind
  table : String
  fields : List Field := []
  filter : Option Json := none
  order : Option Json := none
  qualifiers : List Field := []
  columns : List Column := []
  batchSize : Option Nat := none
  hints : Option String := none
  top : Option Nat := none
  page : Nat := 0
  rowsPerBatch : Option Nat := none
  field : Option Field := none
  deriving Repr

/-- A request file. -/
structure RequestFile where
  dialect : Option Dialect := none
  options : Option Options := none
  overrides : Setting.Overrides := {}
  entries : List RequestEntry := []
  deriving Repr

namespace RequestEntry

def shape : Record.Shape where
  names :=
    ["name", "operation", "table", "fields", "filter", "order_by", "qualifiers", "columns",
      "batch_size", "hints", "top", "page", "rows_per_batch", "field"]
  required := 14
  closed := true

/-- What is looked at in an entry: a column ignores the members that it does not list. -/
def layout : Record.Layout :=
  .record shape (fun name =>
    if name = "columns" then .list (.flat Column.shape) else .whole)

def decodeOperation? (document : Json) : Option OperationKind := do
  let name ← Record.constant? .toml document
  OperationKind.named? name

/-- Read a bag, in which numbers that are not finite are null. -/
def decodeBag? (document : Json) : Option Json :=
  some document.withFiniteNumbers

def decode? (document : Json) : Option RequestEntry := do
  let record ← shape.members? document
  let name ← Record.optional? record "name" Record.text?
  let operation ← Record.required? record "operation" decodeOperation?
  let table ← Record.required? record "table" Record.text?
  let fields ← Record.withDefault? record "fields" [] (Record.array? Field.decode?)
  let filter ← Record.optional? record "filter" decodeBag?
  let order ← Record.optional? record "order_by" decodeBag?
  let qualifiers ← Record.withDefault? record "qualifiers" [] (Record.array? Field.decode?)
  let columns ← Record.withDefault? record "columns" [] (Record.array? (Column.decode? .toml))
  let batchSize ← Record.optional? record "batch_size" Record.count?
  let hints ← Record.optional? record "hints" Record.text?
  let top ← Record.optional? record "top" Record.count?
  let page ← Record.withDefault? record "page" 0 Record.count?
  let rowsPerBatch ← Record.optional? record "rows_per_batch" Record.count?
  let field ← Record.optional? record "field" Field.decode?
  some
    { name
      operation
      table
      fields
      filter
      order
      qualifiers
      columns
      batchSize
      hints
      top
      page
      rowsPerBatch
      field }

def label (entry : RequestEntry) : String :=
  match entry.name with
  | some name => name ++ " (" ++ entry.operation.name ++ ")"
  | none => entry.operation.name ++ " " ++ entry.table

/-- The number of rows of a page when an entry does not say. -/
def usualRowsPerBatch : Nat := 10

def arguments (entry : RequestEntry) : Operation.Arguments where
  field := entry.field
  top := entry.top
  page := entry.page
  rows := entry.rowsPerBatch.getD usualRowsPerBatch

end RequestEntry

namespace RequestFile

def shape : Record.Shape where
  names := ["dialect", "global", "setting", "statement"]
  required := 2
  closed := true

def layout : Record.Layout :=
  .record shape (fun name =>
    match name with
    | "global" => .flat Options.shape
    | "setting" => .flat Setting.Overrides.shape
    | "statement" => .list RequestEntry.layout
    | _ => .whole)

def decode? (document : Json) : Option RequestFile := do
  let record ← shape.members? document
  let dialect ← Record.optional? record "dialect" Dialect.decode?
  let options ← Record.optional? record "global" Options.decode?
  let overrides ← Record.withDefault? record "setting" {} Setting.Overrides.decode?
  let entries ←
    Record.withDefault? record "statement" [] (Record.array? RequestEntry.decode?)
  some { dialect, options, overrides, entries }

def read? (text : String) : Option RequestFile := do
  let document ← layout.read? text
  decode? document

end RequestFile

end SqlCompiler
