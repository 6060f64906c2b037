import SqlCompiler.Error
import SqlCompiler.Identifier
import SqlCompiler.SqlType

/-!
# Fields and sort keys

A field refers to a column by name and may declare the type of its values.
Fields are looked up by their bare name, so equality and hashing see the name
only, exactly as given.  A sort key adds a direction, and two sort keys are
equal only when both name and direction are.
-/

namespace SqlCompiler

/-- A reference to a column. -/
structure Field where
  name : String
  type : Option SqlType := none
  deriving Repr

namespace Field

instance : BEq Field where
  beq first second := first.name == second.name

instance : Hashable Field where
  hash field := hash field.name

/-- A field without a declared type; a blank name is refused. -/
def ofName (name : String) : Except CompileError Field :=
  if Text.isBlank name then .error .blankFieldName else .ok { name }

/-- A field with a declared type; a blank name is refused. -/
def typed (name : String) (type : SqlType) : Except CompileError Field := do
  let field ← ofName name
  .ok { field with type := some type }

def ofNames (names : List String) : Except CompileError (List Field) :=
  names.mapM ofName

def quoted (field : Field) (setting : Setting) : String :=
  setting.quote field.name

def unquoted (field : Field) (setting : Setting) : String :=
  setting.unquote field.name

def parameter (field : Field) (setting : Setting) (row : Nat) : String :=
  setting.parameter field.name row

/-- Some field of a list has a name, up to quotes and case. -/
def anyNamed (fields : List Field) (setting : Setting) (name : String) : Bool :=
  fields.any (fun field => setting.sameName field.name name)

/-- The fields whose names are not among some names, up to quotes and case. -/
def without (fields : List Field) (setting : Setting) (names : List String) : List Field :=
  fields.filter (fun field => !names.any (fun name => setting.sameName field.name name))

/-- Declared types are invisible to the comparison of fields. -/
theorem beq_iff_name_eq (first second : Field) :
    (first == second) = true ↔ first.name = second.name := by
  simp [BEq.beq]

/-- A field is made exactly from the names that are not blank. -/
theorem ofName_eq_ok_iff (name : String) (field : Field) :
    ofName name = .ok field ↔ Text.isBlank name = false ∧ field = { name } := by
  unfold ofName
  cases blank : Text.isBlank name <;> simp [eq_comm]

end Field

/-- The direction of a sort key. -/
inductive SortOrder where
  | ascending
  | descending
  deriving DecidableEq, Repr, Hashable

namespace SortOrder

def keyword : SortOrder → String
  | .ascending => "ASC"
  | .descending => "DESC"

def name : SortOrder → String
  | .ascending => "Ascending"
  | .descending => "Descending"

def spellings : List (List String × SortOrder) :=
  [(["asc", "ascending"], .ascending), (["desc", "descending"], .descending)]

def parse (text : String) : Except CompileError SortOrder :=
  match Text.lookup spellings (Text.plainKeyword text) with
  | some order => .ok order
  | none => .error (.unknownOrder (Text.plainKeyword text))

end SortOrder

/-- A column to sort by. -/
structure SortKey where
  name : String
  order : SortOrder := .ascending
  deriving DecidableEq, Repr, Hashable

namespace SortKey

def make (name : String) (order : SortOrder) : Except CompileError SortKey := do
  let field ← Field.ofName name
  .ok { name := field.name, order }

def text (key : SortKey) (setting : Setting) : String :=
  setting.quote key.name ++ " " ++ key.order.keyword

def field (key : SortKey) : Field :=
  { name := key.name }

end SortKey

end SqlCompiler
