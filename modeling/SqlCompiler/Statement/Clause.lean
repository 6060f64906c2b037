import SqlCompiler.Filter.Text

/-!
# Clauses

The lists and clauses of which statements are made: lists of columns, of
placeholders and of assignments, the condition, the order and the hints.  A
list is one word; a clause is a list of words and has none when there is
nothing to say.
-/

namespace SqlCompiler

namespace Clause

def commaList (texts : List String) : String :=
  ", ".intercalate texts

def conjunctionList (texts : List String) : String :=
  " AND ".intercalate texts

def columnList (setting : Setting) (fields : List Field) : String :=
  commaList (fields.map (fun field => field.quoted setting))

/-- The quoted columns of some fields in a named row source. -/
def columnsOf (setting : Setting) (source : String) (fields : List Field) : String :=
  commaList (fields.map (fun field => source ++ "." ++ field.quoted setting))

def parameterList (setting : Setting) (fields : List Field) (row : Nat) : String :=
  commaList (fields.map (fun field => field.parameter setting row))

/-- The placeholders of some fields in a row, each named as its column. -/
def namedParameterList (setting : Setting) (fields : List Field) (row : Nat) : String :=
  commaList (fields.map (fun field =>
    field.parameter setting row ++ " AS " ++ field.quoted setting))

def equation (setting : Setting) (row : Nat) (field : Field) : String :=
  field.quoted setting ++ " = " ++ field.parameter setting row

/-- Some columns, each set equal to its placeholder in a row. -/
def assignmentList (setting : Setting) (fields : List Field) (row : Nat) : String :=
  commaList (fields.map (equation setting row))

/-- A column of one row source set equal to the same column of another. -/
def equationBetween (setting : Setting) (left right : String) (field : Field) : String :=
  left ++ "." ++ field.quoted setting ++ " = " ++ right ++ "." ++ field.quoted setting

/-- Some columns of one row source, each set equal to the same column of another. -/
def assignmentsBetween (setting : Setting) (left right : String) (fields : List Field) :
    String :=
  commaList (fields.map (equationBetween setting left right))

def named (setting : Setting) (expression name : String) : List String :=
  [expression, "AS", setting.quote name]

def hints (hints : Option String) : List String :=
  match hints with
  | some text => if Text.isBlank text then [] else [Text.trim text]
  | none => []

/-- The condition of a filter, unless it holds no comparator. -/
def condition (setting : Setting) (filter : Option Filter) (row : Nat) : List String :=
  match filter with
  | some filter => if filter.isEmpty then [] else ["WHERE", filter.text setting row]
  | none => []

/-- The condition that some columns equal their placeholders, unless there are none. -/
def equalities (setting : Setting) (fields : List Field) (row : Nat) : List String :=
  if fields.isEmpty then []
  else ["WHERE", "(" ++ conjunctionList (fields.map (equation setting row)) ++ ")"]

def order (setting : Setting) (keys : List SortKey) : List String :=
  if keys.isEmpty then []
  else ["ORDER BY", commaList (keys.map (fun key => key.text setting))]

def top (rows : Nat) : List String :=
  ["TOP (" ++ toString rows ++ ")"]

def limit (rows : Nat) : List String :=
  ["LIMIT " ++ toString rows]

def limitOffset (rows offset : Nat) : List String :=
  ["LIMIT " ++ toString rows ++ " OFFSET " ++ toString offset]

def offsetLimit (offset rows : Nat) : List String :=
  ["LIMIT " ++ toString offset ++ ", " ++ toString rows]

end Clause

end SqlCompiler
