import SqlCompiler.Request

/-!
# Statements

A compiled text is a sequence of statements, and each statement is data: what
it does, to which table, with which fields, in which row of a batch.  How a
statement is spelled for a database follows from the statement and the setting
alone.
-/

namespace SqlCompiler

/-- The table of a statement and its hints. -/
structure Target where
  table : String
  hints : Option String
  deriving Repr

/-- What a selection returns. -/
inductive Selection where
  | expression (text name : String)
  | fields (fields : List Field)
  deriving Repr

/-- Which rows a selection is cut to, behind its order. -/
inductive RowWindow where
  | all
  | limit (rows : Nat)
  | limitOffset (rows offset : Nat)
  | offsetLimit (offset rows : Nat)
  deriving DecidableEq, Repr

/-- How the value of a key is read back. -/
inductive KeyExpression where
  | parameter (column : String) (row : Nat)
  | scopeIdentity (type : String)
  | generated (function : String)
  | parameterElseGenerated (column : String) (row : Nat) (function : String)
  | inserted (column : String)
  | returned (column : String)
  deriving DecidableEq, Repr

/-- A reported key, with its row number inside a batch. -/
structure KeyReport where
  expression : KeyExpression
  row : Option Nat
  deriving DecidableEq, Repr

/-- Which rows an update changes. -/
inductive UpdateCondition where
  | filter (filter : Filter)
  | qualifiers (fields : List Field)
  deriving Repr

/-- The parts that a field list falls into when rows are merged. -/
structure MergeFields where
  fields : List Field
  qualifiers : List Field
  insertable : List Field
  updatable : List Field
  deriving Repr

/-- How an insert says what happens to a row that exists. -/
inductive ConflictRule where
  | onConflict (excluded : String)
  | onDuplicateKey
  deriving DecidableEq, Repr

/-- One statement. -/
inductive Statement where
  | select (selection : Selection) (target : Target) (filter : Option Filter)
      (order : List SortKey) (top : Option Nat) (window : RowWindow)
  | selectPage (fields : List Field) (target : Target) (filter : Option Filter)
      (order : List SortKey) (page : Request.Page)
  | selectKey (report : KeyReport)
  | delete (target : Target) (filter : Option Filter)
  | truncate (table : String)
  | vacuum
  | insert (target : Target) (fields : List Field) (row : Nat) (report : Option KeyReport)
  | insertRows (target : Target) (fields : List Field) (rows : Nat) (report : Option KeyReport)
  | update (target : Target) (fields : List Field) (row : Nat) (condition : UpdateCondition)
  | merge (target : Target) (parts : MergeFields) (row : Nat) (report : Option KeyReport)
  | upsert (target : Target) (parts : MergeFields) (row : Nat) (rule : ConflictRule)
      (report : Option KeyReport)
  deriving Repr

def Request.target (request : Request) : Target where
  table := request.table
  hints := request.hints

end SqlCompiler
