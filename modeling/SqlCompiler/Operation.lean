import SqlCompiler.Field

/-!
# Operations

The twenty-three things a request can be compiled to.  Operations that select
rows come in two forms, one that heeds the filter of the request and one for
all rows; operations that write rows come in one form for a single row and one
for a batch.
-/

namespace SqlCompiler

/-- A function over all values of a column. -/
inductive Aggregate where
  | average
  | greatest
  | least
  | sum
  deriving DecidableEq, Repr

namespace Aggregate

def function : Aggregate → String
  | .average => "AVG"
  | .greatest => "MAX"
  | .least => "MIN"
  | .sum => "SUM"

def resultName : Aggregate → String
  | .average => "AverageValue"
  | .greatest => "MaxValue"
  | .least => "MinValue"
  | .sum => "SumValue"

def name : Aggregate → String
  | .average => "average"
  | .greatest => "max"
  | .least => "min"
  | .sum => "sum"

end Aggregate

/-- Which rows an operation looks at. -/
inductive Scope where
  | filtered
  | allRows
  deriving DecidableEq, Repr

namespace Scope

def mark (scope : Scope) (name : String) : String :=
  match scope with
  | .filtered => name
  | .allRows => name ++ "_all"

end Scope

/-- How many rows an operation writes: one, or those of the batch. -/
inductive Extent where
  | oneRow
  | batch
  deriving DecidableEq, Repr

namespace Extent

def mark (extent : Extent) (name : String) : String :=
  match extent with
  | .oneRow => name
  | .batch => name ++ "_all"

end Extent

/-- An operation without its arguments. -/
inductive OperationKind where
  | count (scope : Scope)
  | anyRow
  | aggregate (function : Aggregate) (scope : Scope)
  | delete (scope : Scope)
  | truncate
  | insert (extent : Extent)
  | update (extent : Extent)
  | query
  | queryAll
  | batchQuery
  | merge (extent : Extent)
  deriving DecidableEq, Repr

namespace OperationKind

def all : List OperationKind :=
  [.count .filtered, .count .allRows, .anyRow,
    .aggregate .average .filtered, .aggregate .average .allRows,
    .aggregate .greatest .filtered, .aggregate .greatest .allRows,
    .aggregate .least .filtered, .aggregate .least .allRows,
    .aggregate .sum .filtered, .aggregate .sum .allRows,
    .delete .filtered, .delete .allRows, .truncate, .insert .oneRow, .insert .batch,
    .update .oneRow, .update .batch, .query, .queryAll, .batchQuery, .merge .oneRow,
    .merge .batch]

def name : OperationKind → String
  | .count scope => scope.mark "count"
  | .anyRow => "exists"
  | .aggregate function scope => scope.mark function.name
  | .delete scope => scope.mark "delete"
  | .truncate => "truncate"
  | .insert extent => extent.mark "insert"
  | .update extent => extent.mark "update"
  | .query => "query"
  | .queryAll => "query_all"
  | .batchQuery => "batch_query"
  | .merge extent => extent.mark "merge"

def named? (text : String) : Option OperationKind :=
  all.find? (·.name == text)

def heedsFilter : OperationKind → Bool
  | .count scope | .aggregate _ scope | .delete scope => scope == .filtered
  | .update extent => extent == .oneRow
  | .anyRow | .query | .batchQuery => true
  | _ => false

def needsField : OperationKind → Bool
  | .aggregate _ _ => true
  | _ => false

/-- Every kind of operation is listed. -/
theorem mem_all (kind : OperationKind) : kind ∈ all := by
  cases kind with
  | count scope => cases scope <;> decide
  | aggregate function scope => cases function <;> cases scope <;> decide
  | delete scope => cases scope <;> decide
  | insert extent => cases extent <;> decide
  | update extent => cases extent <;> decide
  | merge extent => cases extent <;> decide
  | _ => decide

end OperationKind

/-- What a request is compiled to. -/
inductive Operation where
  | count (scope : Scope)
  | anyRow
  | aggregate (function : Aggregate) (field : Field) (scope : Scope)
  | delete (scope : Scope)
  | truncate
  | insert (extent : Extent)
  | update (extent : Extent)
  | query (top : Option Nat)
  | queryAll
  | batchQuery (page rows : UInt64)
  | merge (extent : Extent)
  deriving Repr

namespace Operation

def kind : Operation → OperationKind
  | .count scope => .count scope
  | .anyRow => .anyRow
  | .aggregate function _ scope => .aggregate function scope
  | .delete scope => .delete scope
  | .truncate => .truncate
  | .insert extent => .insert extent
  | .update extent => .update extent
  | .query _ => .query
  | .queryAll => .queryAll
  | .batchQuery _ _ => .batchQuery
  | .merge extent => .merge extent

/-- The arguments that an operation may take. -/
structure Arguments where
  field : Option Field := none
  top : Option Nat := none
  page : Nat := 0
  rows : Nat := 0
  deriving Repr

/-- The operation of a kind with those arguments that it takes, unless it lacks its field. -/
def make? (kind : OperationKind) (arguments : Arguments) : Option Operation :=
  match kind with
  | .count scope => some (.count scope)
  | .anyRow => some .anyRow
  | .aggregate function scope =>
      arguments.field.map (fun field => .aggregate function field scope)
  | .delete scope => some (.delete scope)
  | .truncate => some .truncate
  | .insert extent => some (.insert extent)
  | .update extent => some (.update extent)
  | .query => some (.query arguments.top)
  | .queryAll => some .queryAll
  | .batchQuery => some (.batchQuery arguments.page.toUInt64 arguments.rows.toUInt64)
  | .merge extent => some (.merge extent)

/-- An operation is made of its own kind. -/
theorem kind_of_make? {kind : OperationKind} {arguments : Arguments} {operation : Operation}
    (made : make? kind arguments = some operation) : operation.kind = kind := by
  cases kind with
  | aggregate function scope =>
      obtain ⟨field, _, rfl⟩ := Option.map_eq_some_iff.mp made
      rfl
  | _ =>
      cases Option.some.inj made
      rfl

end Operation

end SqlCompiler
