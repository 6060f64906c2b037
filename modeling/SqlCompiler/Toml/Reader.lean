import SqlCompiler.Toml.Quoted
import SqlCompiler.Toml.Table

/-!
# Reading TOML

The reader accepts version 1.1 of the notation, in which tables in braces may
go over several lines.  A document is read line by line; what a line adds is
checked by the rules for tables.  Arrays and tables in braces stand at most
eighty levels deep, and a key has at most eighty parts.

As in the reader for JSON, the functions that call each other share a counter
that bounds their calls.
-/

namespace SqlCompiler

namespace Toml

def depthLimit : Nat := 80

def partLimit : Nat := 80

def skipBlanks (text : List Char) : List Char :=
  text.dropWhile isBlank

def skipComment : List Char → List Char
  | '#' :: rest => rest.dropWhile isPrintable
  | text => text

/-- Skip space, comments and line ends; every call passes at least one character. -/
def skipFiller : Nat → List Char → List Char
  | 0, text => text
  | fuel + 1, text =>
      match readLineEnd (skipComment (skipBlanks text)) with
      | some rest => skipFiller fuel rest
      | none => skipComment (skipBlanks text)

def skipBetween (text : List Char) : List Char :=
  skipFiller text.length text

def readRestOfLine (text : List Char) : Option (List Char) :=
  match skipComment (skipBlanks text) with
  | [] => some []
  | rest => readLineEnd rest

def isKeyCharacter (c : Char) : Bool :=
  c.isAlphanum || c == '_' || c == '-'

def readSimpleKey (text : List Char) : Option (String × List Char) :=
  match readQuotedLine text with
  | some result => some result
  | none =>
      let key := text.takeWhile isKeyCharacter
      if key.isEmpty then none else some (.ofList key, text.drop key.length)

/-- Read a key and the path in front of it, which have at most so many parts together. -/
def readKey : Nat → List Char → Option ((List String × String) × List Char)
  | 0, _ => none
  | parts + 1, text => do
      let (key, rest) ← readSimpleKey text
      match skipBlanks rest with
      | '.' :: rest =>
          let ((path, last), rest) ← readKey parts (skipBlanks rest)
          some ((key :: path, last), rest)
      | rest => some (([], key), rest)

/-- The characters of values without quotes: all but space, comments and what joins values. -/
def isScalarCharacter (c : Char) : Bool :=
  !(isBlank c || ['\n', '\x0d', '#', '=', ',', '[', ']', '\x7b', '\x7d'].contains c)

/-- Behind some tabs stands another word without quotes. -/
def wordBehindTabs (text : List Char) : Bool :=
  (text.dropWhile (· == '\t')).head?.any
    (fun c => isScalarCharacter c && c != '"' && c != '\'')

/-- The value without quotes at the front of a text, whose words tabs may join. -/
def scalarText : List Char → List Char
  | [] => []
  | c :: rest =>
      if isScalarCharacter c || (c == '\t' && wordBehindTabs rest) then c :: scalarText rest
      else []

/-- A date at the front is followed by one space and a time. -/
def spacedTime (date : List Char) (rest : List Char) : List Char :=
  match rest with
  | ' ' :: behind =>
      if (Date.read date).any (·.2.isEmpty) && behind.head?.any Char.isDigit then
        ' ' :: behind.takeWhile isScalarCharacter
      else []
  | _ => []

def readScalar (text : List Char) : Option (Scalar × List Char) := do
  let word := scalarText text
  let rest := text.drop word.length
  let time := spacedTime word rest
  let value ← scalar? (word ++ time)
  some (value, rest.drop time.length)

mutual

def readValue (depth : Nat) : Nat → List Char → Option (Node × List Char)
  | 0, _ => none
  | fuel + 1, text =>
      match text with
      | '[' :: rest => do
          guard (depth < depthLimit)
          let (items, rest) ← readItems (depth + 1) fuel rest
          some (.array items, rest)
      | '\x7b' :: rest => do
          guard (depth < depthLimit)
          let (table, rest) ← readMembers (depth + 1) {} fuel rest
          some (table.closed, rest)
      | '"' :: rest => do
          let (value, rest) ← readQuoted ('"' :: rest)
          some (.scalar (.text value), rest)
      | '\'' :: rest => do
          let (value, rest) ← readQuoted ('\'' :: rest)
          some (.scalar (.text value), rest)
      | text => do
          let (value, rest) ← readScalar text
          some (.scalar value, rest)

/-- Read the items that are left of an array and its closing bracket. -/
def readItems (depth : Nat) : Nat → List Char → Option (List Node × List Char)
  | 0, _ => none
  | fuel + 1, text =>
      match skipBetween text with
      | ']' :: rest => some ([], rest)
      | text => do
          let (item, rest) ← readValue depth fuel text
          match skipBetween rest with
          | ',' :: rest =>
              let (items, rest) ← readItems depth fuel rest
              some (item :: items, rest)
          | ']' :: rest => some ([item], rest)
          | _ => none

/-- Read the members that are left of a table in braces and its closing brace. -/
def readMembers (depth : Nat) (table : Table) : Nat → List Char → Option (Table × List Char)
  | 0, _ => none
  | fuel + 1, text =>
      match skipBetween text with
      | '\x7d' :: rest => some (table, rest)
      | text => do
          let ((path, key), rest) ← readKey partLimit text
          match skipBetween rest with
          | '=' :: rest =>
              let (value, rest) ← readValue depth fuel (skipBetween rest)
              let table ← table.addDotted path key value
              match skipBetween rest with
              | ',' :: rest => readMembers depth table fuel rest
              | '\x7d' :: rest => some (table, rest)
              | _ => none
          | _ => none

end

def readHeader (isArray : Bool) (text : List Char) : Option (Header × List Char) := do
  let ((path, key), rest) ← readKey partLimit (skipBlanks text)
  match isArray, rest with
  | false, ']' :: rest => some ({ path, key, isArray }, rest)
  | true, ']' :: ']' :: rest => some ({ path, key, isArray }, rest)
  | _, _ => none

def readAssignment (draft : Draft) (text : List Char) : Option (Draft × List Char) := do
  let ((path, key), rest) ← readKey partLimit text
  match rest with
  | '=' :: rest =>
      let (value, rest) ← readValue 0 (2 * rest.length + 2) (skipBlanks rest)
      let draft ← draft.add path key value
      some (draft, rest)
  | _ => none

def readLine (draft : Draft) (text : List Char) : Option (Draft × List Char) :=
  match text with
  | [] => some (draft, [])
  | '#' :: rest => some (draft, '#' :: rest)
  | '\n' :: rest => some (draft, '\n' :: rest)
  | '\x0d' :: rest => some (draft, '\x0d' :: rest)
  | '[' :: '[' :: rest => do
      let (header, rest) ← readHeader true rest
      let draft ← draft.start header
      some (draft, rest)
  | '[' :: rest => do
      let (header, rest) ← readHeader false rest
      let draft ← draft.start header
      some (draft, rest)
  | text => readAssignment draft text

/-- Read the lines that are left; every call passes a line or ends. -/
def readLines (draft : Draft) : Nat → List Char → Option Draft
  | 0, text => if text.isEmpty then some draft else none
  | fuel + 1, text =>
      if text.isEmpty then some draft
      else do
        let (draft, rest) ← readLine draft (skipBlanks text)
        let rest ← readRestOfLine rest
        readLines draft fuel rest

/-- The byte order mark that may stand in front of a document. -/
def byteOrderMark : Char := Char.ofNat 0xFEFF

def read? (text : String) : Option Node := do
  let characters :=
    match text.toList with
    | c :: rest => if c = byteOrderMark then rest else c :: rest
    | [] => []
  let draft ← readLines {} characters.length characters
  let root ← draft.finish
  some root.node

end Toml

end SqlCompiler
