import SqlCompiler.Text.WhiteSpace

/-!
# Keywords without regard to case

Dialects, directions, conjunctions, comparisons and policies are named by
short ASCII keywords.  A plain keyword is trimmed and compared in ASCII lower
case.  A loose keyword also drops joining characters such as `_` and uses the
full Unicode lower case; outside ASCII only the Kelvin sign has an ASCII lower
case, so no other character can turn into a letter of a keyword.
-/

namespace SqlCompiler

namespace Text

def asciiLower (text : String) : String :=
  .ofList (text.toList.map Char.toLower)

/-- Two texts are the same up to the case of the letters A to Z. -/
def sameIgnoringCase (first second : String) : Bool :=
  asciiLower first == asciiLower second

def plainKeyword (text : String) : String :=
  asciiLower (trim text)

/--
The lower case of a character as far as it can matter in an ASCII keyword.

Every other character outside ASCII has a lower case with a character outside
ASCII in it, and such a character never occurs in a keyword.
-/
def keywordLetter (c : Char) : Char :=
  if c = Char.ofNat 0x212A then 'k' else c.toLower

/-- The form in which a loose keyword is looked up, without the joining characters. -/
def looseKeyword (joining : List Char) (text : String) : String :=
  .ofList (((trimBoth text.toList).filter (!joining.contains ·)).map keywordLetter)

def lookup {α : Type} (table : List (List String × α)) (keyword : String) : Option α :=
  (table.find? (fun entry => entry.1.contains keyword)).map Prod.snd

end Text

end SqlCompiler
