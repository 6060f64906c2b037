/-!
# Trimming by Unicode white space

Names, hints and keywords reach the compiler with stray space around them.
What counts as space is the Unicode property `White_Space`: twenty-five
characters, among them the no-break spaces and the line separators, but not
the zero-width space.  Trimming is defined on character lists; the functions
on strings wrap it.
-/

namespace SqlCompiler

namespace Text

/-- The characters with the Unicode property `White_Space`. -/
def isWhiteSpace (c : Char) : Bool :=
  let code := c.toNat
  (9 ≤ code && code ≤ 13) || code == 0x20 || code == 0x85 || code == 0xA0 ||
    code == 0x1680 || (0x2000 ≤ code && code ≤ 0x200A) || code == 0x2028 ||
    code == 0x2029 || code == 0x202F || code == 0x205F || code == 0x3000

def trimFront (text : List Char) : List Char :=
  text.dropWhile isWhiteSpace

def trimBack (text : List Char) : List Char :=
  (trimFront text.reverse).reverse

def trimBoth (text : List Char) : List Char :=
  trimBack (trimFront text)

def trim (text : String) : String :=
  .ofList (trimBoth text.toList)

def trimEnd (text : String) : String :=
  .ofList (trimBack text.toList)

/-- A string is blank when nothing but white space is in it. -/
def isBlank (text : String) : Bool :=
  text.toList.all isWhiteSpace

@[simp]
theorem trimFront_nil : trimFront [] = [] :=
  rfl

@[simp]
theorem trimBack_nil : trimBack [] = [] :=
  rfl

@[simp]
theorem trimBoth_nil : trimBoth [] = [] :=
  rfl

@[simp]
theorem toList_trim (text : String) :
    (trim text).toList = trimBoth text.toList := by
  simp [trim]

@[simp]
theorem toList_trimEnd (text : String) :
    (trimEnd text).toList = trimBack text.toList := by
  simp [trimEnd]

/-- Space at the front stops at a character that is no space. -/
theorem trimFront_cons_of_not_space {c : Char} (notSpace : isWhiteSpace c = false)
    (text : List Char) : trimFront (c :: text) = c :: text := by
  simp [trimFront, notSpace]

/-- A last character that is no space stays where it is. -/
theorem trimBack_append_of_not_space {c : Char} (notSpace : isWhiteSpace c = false)
    (text : List Char) : trimBack (text ++ [c]) = text ++ [c] := by
  simp [trimBack, trimFront, notSpace]

/-- A last character that is space is trimmed off. -/
theorem trimBack_append_of_space {c : Char} (space : isWhiteSpace c = true)
    (text : List Char) : trimBack (text ++ [c]) = trimBack text := by
  simp [trimBack, trimFront, space]

end Text

end SqlCompiler
