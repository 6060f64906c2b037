import SqlCompiler.Compiler.Basic

/-!
# Compiling operations that read rows

Counts, tests for rows, aggregates and queries are single selections.  Their
filter is written unless it is empty.  A row limit stands in front of the
columns or at the end, and a page is cut out by numbered rows on SQL Server
and by an offset elsewhere.
-/

namespace SqlCompiler

/-- The filter of a request, if the scope heeds it and it holds a comparator. -/
def Scope.filter (scope : Scope) (request : Request) : Option Filter :=
  match scope with
  | .filtered => request.effectiveFilter
  | .allRows => none

namespace Compiler

def frontLimit (compiler : Compiler) (rows : Option Nat) : Option Nat :=
  if compiler.limitsInFront then rows else none

def endLimit (compiler : Compiler) (rows : Option Nat) : RowWindow :=
  match rows with
  | some rows => if compiler.limitsInFront then .all else .limit rows
  | none => .all

def selectExpression (expression name : String) (request : Request) (scope : Scope) :
    Statement :=
  .select (.expression expression name) request.target (scope.filter request) [] none .all

def countStatement (compiler : Compiler) (request : Request) (scope : Scope) : Statement :=
  selectExpression compiler.countExpression "CountValue" request scope

def count (compiler : Compiler) (request : Request) (scope : Scope) :
    Except CompileError (List Statement) := do
  request.checkCommon compiler.setting
  .ok [compiler.countStatement request scope]

def anyRowStatement (compiler : Compiler) (request : Request) : Statement :=
  .select (.expression "1" "ExistsValue") request.target request.effectiveFilter []
    (compiler.frontLimit (some 1)) (compiler.endLimit (some 1))

def anyRow (compiler : Compiler) (request : Request) :
    Except CompileError (List Statement) := do
  request.checkCommon compiler.setting
  .ok [compiler.anyRowStatement request]

def aggregateCall (compiler : Compiler) (function : Aggregate) (column : String) : String :=
  let argument :=
    match function with
    | .average => compiler.averageArgument column
    | _ => column
  function.function ++ "(" ++ argument ++ ")"

def aggregateStatement (compiler : Compiler) (request : Request) (function : Aggregate)
    (field : Field) (scope : Scope) : Statement :=
  selectExpression (compiler.aggregateCall function (field.quoted compiler.setting))
    function.resultName request scope

def aggregate (compiler : Compiler) (request : Request) (function : Aggregate) (field : Field)
    (scope : Scope) : Except CompileError (List Statement) := do
  request.checkCommon compiler.setting
  .ok [compiler.aggregateStatement request function field scope]

/-- The row limit of a query; no rows at all is no limit. -/
def queryLimit (top : Option Nat) : Option Nat :=
  top.filter (0 < ·)

def queryStatement (compiler : Compiler) (request : Request) (top : Option Nat)
    (scope : Scope) : Statement :=
  .select (.fields request.fields) request.target (scope.filter request) request.order
    (compiler.frontLimit (queryLimit top)) (compiler.endLimit (queryLimit top))

def query (compiler : Compiler) (request : Request) (top : Option Nat) (scope : Scope) :
    Except CompileError (List Statement) := do
  request.checkCommon compiler.setting
  request.checkFields
  .ok [compiler.queryStatement request top scope]

/-- The checks of a query for one page, which give its row positions. -/
def planPage (compiler : Compiler) (request : Request) (page rows : UInt64) :
    Except CompileError Request.Page := do
  request.checkCommon compiler.setting
  request.checkFields
  request.checkOrder
  Request.resolvePage page rows

def pageStatement (dialect : Dialect) (request : Request) (rows : UInt64)
    (page : Request.Page) : Statement :=
  let window :=
    match dialect with
    | .mySql => RowWindow.offsetLimit page.offset.toNat rows.toNat
    | _ => RowWindow.limitOffset rows.toNat page.offset.toNat
  match dialect with
  | .sqlServer =>
      .selectPage request.fields request.target request.effectiveFilter request.order page
  | _ =>
      .select (.fields request.fields) request.target request.effectiveFilter request.order
        none window

/-- Select the fields of one page of ordered rows; pages count from zero. -/
def batchQuery (compiler : Compiler) (request : Request) (page rows : UInt64) :
    Except CompileError (List Statement) := do
  match compiler.dialect with
  | none => .error .dialectRequired
  | some dialect =>
      let positions ← compiler.planPage request page rows
      .ok [pageStatement dialect request rows positions]

end Compiler

end SqlCompiler
