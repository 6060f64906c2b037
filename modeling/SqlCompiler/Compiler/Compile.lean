import SqlCompiler.Compiler.Session

/-!
# Compiling requests

Compiling takes an operation and a request to statements, or refuses the
request.  The text of a compiled request is the text of its statements.  A
caller may keep one growing text for several requests; then the steps of each
operation are made on this text, and the result is the text as they leave it.
-/

namespace SqlCompiler

namespace Compiler

def compile (compiler : Compiler) (configuration : Configuration) (operation : Operation)
    (request : Request) : Except CompileError (List Statement) :=
  match operation with
  | .count scope => compiler.count request scope
  | .anyRow => compiler.anyRow request
  | .aggregate function field scope => compiler.aggregate request function field scope
  | .delete scope => compiler.delete request scope
  | .truncate => compiler.truncate request
  | .insert extent => compiler.insert configuration request extent
  | .update extent => compiler.update request extent
  | .query top => compiler.query request top .filtered
  | .queryAll => compiler.query request none .allRows
  | .batchQuery page rows => compiler.batchQuery request page rows
  | .merge extent => compiler.merge configuration request extent

def written (compiler : Compiler) (statements : List Statement) : StatementText :=
  .ofWords (Statement.allWords compiler.setting statements)

def text (compiler : Compiler) (configuration : Configuration) (operation : Operation)
    (request : Request) : Except CompileError String := do
  let statements ← compiler.compile configuration operation request
  .ok (compiler.written statements).finished

/-- The result of an operation on the text of its caller, and the text that it leaves behind. -/
def textOver (compiler : Compiler) (configuration : Configuration) (operation : Operation)
    (request : Request) (before : StatementText) : Except CompileError String × StatementText :=
  Session.runOn
    (do
      compiler.session configuration request operation
      Session.finished)
    before

end Compiler

end SqlCompiler
