import SqlCompiler.Setting
import SqlCompiler.Error
import SqlCompiler.Text.Keyword

/-!
# Dialects

The four databases for which statements can be compiled.  A dialect has one
name, a few other spellings and a default setting.
-/

namespace SqlCompiler

/-- A database with its own way to write statements. -/
inductive Dialect where
  | sqlServer
  | postgreSql
  | mySql
  | sqlite
  deriving DecidableEq, Repr

namespace Dialect

def all : List Dialect :=
  [.sqlServer, .postgreSql, .mySql, .sqlite]

def name : Dialect → String
  | .sqlServer => "sqlserver"
  | .postgreSql => "postgresql"
  | .mySql => "mysql"
  | .sqlite => "sqlite"

def spellings : List (List String × Dialect) :=
  [(["sqlserver", "mssql"], .sqlServer), (["postgresql", "postgres", "pg"], .postgreSql),
    (["mysql"], .mySql), (["sqlite"], .sqlite)]

def parse (text : String) : Except CompileError Dialect :=
  match Text.lookup spellings (Text.plainKeyword text) with
  | some dialect => .ok dialect
  | none => .error (.unknownDialect (Text.plainKeyword text))

def setting : Dialect → Setting
  | .sqlServer => .sqlServer
  | .postgreSql => .postgreSql
  | .mySql => .mySql
  | .sqlite => .sqlite

/-- Every dialect is listed. -/
theorem mem_all (dialect : Dialect) : dialect ∈ all := by
  cases dialect <;> decide

/-- Every dialect is found under its own name. -/
@[simp]
theorem parse_name (dialect : Dialect) : parse dialect.name = .ok dialect := by
  cases dialect <;> rfl

end Dialect

end SqlCompiler
