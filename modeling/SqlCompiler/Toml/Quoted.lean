/-!
# Quoted texts in TOML

A basic text stands between double quotes and knows escapes; a literal text
stands between single quotes and knows none.  Both have a form with three
quotes that may go over several lines: a line end right behind the opening is
dropped, one or two quotes may stand in front of the closing, and in the basic
form a backslash at the end of a line joins the next line that is not blank.
-/

namespace SqlCompiler

namespace Toml

def isBlank (c : Char) : Bool :=
  c == ' ' || c == '\t'

/-- The characters that may stand in a line of a comment or a text. -/
def isPrintable (c : Char) : Bool :=
  c == '\t' || (0x20 ≤ c.toNat && c.toNat != 0x7F)

def readLineEnd : List Char → Option (List Char)
  | '\n' :: rest => some rest
  | '\x0d' :: '\n' :: rest => some rest
  | _ => none

def hexDigit? (c : Char) : Option Nat :=
  if c.isDigit then some (c.toNat - '0'.toNat)
  else if 'a' ≤ c ∧ c ≤ 'f' then some (c.toNat - 'a'.toNat + 10)
  else if 'A' ≤ c ∧ c ≤ 'F' then some (c.toNat - 'A'.toNat + 10)
  else none

/-- Read a character that is given by so many hexadecimal digits. -/
def readCode (count : Nat) (text : List Char) : Option (Char × List Char) := do
  let digits := text.take count
  guard (digits.length = count)
  let code ← digits.foldlM (fun n c => (hexDigit? c).map (n * 16 + ·)) 0
  guard code.isValidChar
  some (Char.ofNat code, text.drop count)

def readEscape : List Char → Option (Char × List Char)
  | 'b' :: rest => some (Char.ofNat 8, rest)
  | 't' :: rest => some ('\t', rest)
  | 'n' :: rest => some ('\n', rest)
  | 'f' :: rest => some (Char.ofNat 12, rest)
  | 'r' :: rest => some (Char.ofNat 13, rest)
  | 'e' :: rest => some (Char.ofNat 27, rest)
  | '"' :: rest => some ('"', rest)
  | '\\' :: rest => some ('\\', rest)
  | 'x' :: rest => readCode 2 rest
  | 'u' :: rest => readCode 4 rest
  | 'U' :: rest => readCode 8 rest
  | _ => none

/-- Skip space and line ends; every call passes at least one character. -/
def skipSpaceAndLines : Nat → List Char → List Char
  | 0, text => text
  | fuel + 1, text =>
      match readLineEnd (text.dropWhile isBlank) with
      | some rest => skipSpaceAndLines fuel rest
      | none => text.dropWhile isBlank

/-- Read a basic text behind its opening quote, with the characters read so far in reverse. -/
def readBasicTail (read : List Char) : Nat → List Char → Option (String × List Char)
  | 0, _ => none
  | fuel + 1, text =>
      match text with
      | '"' :: rest => some (.ofList read.reverse, rest)
      | '\\' :: rest => do
          let (c, rest) ← readEscape rest
          readBasicTail (c :: read) fuel rest
      | c :: rest => if isPrintable c then readBasicTail (c :: read) fuel rest else none
      | [] => none

/-- Read a basic text of several lines, with the characters read so far in reverse. -/
def readBasicLines (read : List Char) : Nat → List Char → Option (String × List Char)
  | 0, _ => none
  | fuel + 1, text =>
      match text with
      | '"' :: '"' :: '"' :: '"' :: '"' :: rest =>
          some (.ofList ('"' :: '"' :: read).reverse, rest)
      | '"' :: '"' :: '"' :: '"' :: rest => some (.ofList ('"' :: read).reverse, rest)
      | '"' :: '"' :: '"' :: rest => some (.ofList read.reverse, rest)
      | '\\' :: rest =>
          match readLineEnd (rest.dropWhile isBlank) with
          | some next => readBasicLines read fuel (skipSpaceAndLines next.length next)
          | none => do
              let (c, rest) ← readEscape rest
              readBasicLines (c :: read) fuel rest
      | '\x0d' :: '\n' :: rest => readBasicLines ('\n' :: Char.ofNat 13 :: read) fuel rest
      | c :: rest =>
          if isPrintable c || c == '\n' then readBasicLines (c :: read) fuel rest else none
      | [] => none

def readLiteralTail (text : List Char) : Option (String × List Char) :=
  let inner := text.takeWhile (fun c => c != '\'' && isPrintable c)
  match text.drop inner.length with
  | '\'' :: rest => some (.ofList inner, rest)
  | _ => none

/-- Read a literal text of several lines, with the characters read so far in reverse. -/
def readLiteralLines (read : List Char) : Nat → List Char → Option (String × List Char)
  | 0, _ => none
  | fuel + 1, text =>
      match text with
      | '\'' :: '\'' :: '\'' :: '\'' :: '\'' :: rest =>
          some (.ofList ('\'' :: '\'' :: read).reverse, rest)
      | '\'' :: '\'' :: '\'' :: '\'' :: rest => some (.ofList ('\'' :: read).reverse, rest)
      | '\'' :: '\'' :: '\'' :: rest => some (.ofList read.reverse, rest)
      | '\x0d' :: '\n' :: rest => readLiteralLines ('\n' :: Char.ofNat 13 :: read) fuel rest
      | c :: rest =>
          if isPrintable c || c == '\n' then readLiteralLines (c :: read) fuel rest else none
      | [] => none

def dropLineEnd (text : List Char) : List Char :=
  (readLineEnd text).getD text

def readQuotedLine (text : List Char) : Option (String × List Char) :=
  match text with
  | '"' :: rest => readBasicTail [] text.length rest
  | '\'' :: rest => readLiteralTail rest
  | _ => none

def readQuoted (text : List Char) : Option (String × List Char) :=
  match text with
  | '"' :: '"' :: '"' :: rest => readBasicLines [] text.length (dropLineEnd rest)
  | '\'' :: '\'' :: '\'' :: rest => readLiteralLines [] text.length (dropLineEnd rest)
  | _ => readQuotedLine text

end Toml

end SqlCompiler
