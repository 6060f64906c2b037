import SqlCompiler.Text.WhiteSpace

/-!
# Growing texts

Statements are written word by word.  Every word is followed by one space, so
clauses need no separators of their own, and the space behind the last word is
trimmed off the finished text.  An empty word is not written.
-/

namespace SqlCompiler

/-- The words written so far. -/
structure StatementText where
  words : List String := []
  deriving DecidableEq, Repr

namespace StatementText

/-- Write some words, one after the other; empty ones are left out. -/
def writeAll (text : StatementText) (words : List String) : StatementText where
  words := text.words ++ words.filter (fun word => !word.isEmpty)

def write (text : StatementText) (word : String) : StatementText :=
  text.writeAll [word]

def isEmpty (text : StatementText) : Bool :=
  text.words.isEmpty

def finished (text : StatementText) : String :=
  Text.trimEnd (String.join (text.words.map (· ++ " ")))

def ofWords (words : List String) : StatementText :=
  writeAll {} words

@[simp]
theorem words_ofWords (words : List String) :
    (ofWords words).words = words.filter (fun word => !word.isEmpty) := by
  simp [ofWords, writeAll]

/-- Words are written one after the other. -/
theorem writeAll_append (text : StatementText) (first second : List String) :
    text.writeAll (first ++ second) = (text.writeAll first).writeAll second := by
  simp [writeAll]

/-- An empty word is not written. -/
@[simp]
theorem write_empty (text : StatementText) : text.write "" = text := by
  simp [write, writeAll]

end StatementText

end SqlCompiler
