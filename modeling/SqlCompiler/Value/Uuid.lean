/-!
# Universally unique identifiers

A universally unique identifier is a number of 128 bits.  It is written as
thirty-two hexadecimal digits in lower case, in groups of eight, four, four,
four and twelve joined by hyphens.  It is read in either case: with these
hyphens or without any, and with them also in braces or behind the mark of its
name space.
-/

namespace SqlCompiler

/-- A universally unique identifier. -/
structure Uuid where
  value : BitVec 128
  deriving DecidableEq, Repr

namespace Uuid

def groups : List Nat := [8, 4, 4, 4, 12]

def pieces (digits : List Char) : List Nat → List (List Char)
  | [] => []
  | size :: sizes => digits.take size :: pieces (digits.drop size) sizes

def digits (uuid : Uuid) : List Char :=
  (List.range 32).map (fun place => Nat.digitChar (uuid.value.toNat >>> (4 * (31 - place)) % 16))

def text (uuid : Uuid) : String :=
  "-".intercalate ((pieces uuid.digits groups).map String.ofList)

def digit? (c : Char) : Option Nat :=
  if c.isDigit then some (c.toNat - '0'.toNat)
  else if 'a' ≤ c.toLower ∧ c.toLower ≤ 'f' then some (c.toLower.toNat - 'a'.toNat + 10)
  else none

def ofDigits? (digits : List Char) : Option Uuid := do
  guard (digits.length = 32)
  let value ← digits.foldlM (fun n c => (digit? c).map (n * 16 + ·)) 0
  some ⟨.ofNat 128 value⟩

/-- Read thirty-two hexadecimal digits with hyphens between all of their groups. -/
def ofGroups? (characters : List Char) : Option Uuid :=
  let digits := characters.filter (· ≠ '-')
  if ['-'].intercalate (pieces digits groups) = characters then ofDigits? digits else none

def insideBraces? : List Char → Option (List Char)
  | '\x7b' :: rest => if rest.getLast? = some '\x7d' then some rest.dropLast else none
  | _ => none

/-- The mark in front of an identifier that is written as a name. -/
def nameMark : List Char := "urn:uuid:".toList

def behindMark? (characters : List Char) : Option (List Char) :=
  if nameMark.isPrefixOf characters then some (characters.drop nameMark.length) else none

def parse? (text : String) : Option Uuid :=
  let characters := text.toList
  ofDigits? characters <|> ofGroups? characters <|>
    (insideBraces? characters).bind ofGroups? <|> (behindMark? characters).bind ofGroups?

end Uuid

end SqlCompiler
