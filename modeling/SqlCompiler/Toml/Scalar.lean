import SqlCompiler.Json.Basic
import SqlCompiler.Toml.DateTime

/-!
# Values without quotes in TOML

Truth values, numbers, dates and times are written without quotes.  Low lines
may stand between two digits.  A decimal number has no zeros in front, while
the other bases are marked by a letter behind a zero and take no sign.

Reading checks the form of a number and not its value: a number may be beyond
the finite range, the letter that marks its base may have no digits behind it,
and behind a low line a decimal integer may go on with characters that are no
decimal digits.  Only a value that somebody looks at has to be a document: then an integer
fits in a signed or an unsigned 64-bit word, and every number has a value.  A
value that is left aside may be a wider integer.
-/

namespace SqlCompiler

namespace Toml

/-- A value that is no array and no table. -/
inductive Scalar where
  | text (value : String)
  | boolean (value : Bool)
  | integer (value : Int)
  | float (value : Binary64)
  /-- A number that is beyond the finite range, or that has not the digits of its base. -/
  | withoutValue
  | dateTime (canonical : String)
  deriving DecidableEq, Repr, Inhabited

namespace Scalar

/-- The name of the one member of the object that stands for a date or a time. -/
def dateTimeKey : String := "$__toml_private_datetime"

def toJson? : Scalar → Option Json
  | .text value => some (.string value)
  | .boolean value => some (.bool value)
  | .integer value => if Word.holds value then some (.number (.integer value)) else none
  | .float value => some (.number (.float value))
  | .withoutValue => none
  | .dateTime canonical => some (.object [(dateTimeKey, .string canonical)])

def isIgnorable : Scalar → Bool
  | .integer value => Word.wideHolds value
  | .withoutValue => false
  | .text _ | .boolean _ | .float _ | .dateTime _ => true

/-- A value that has a document may be left aside. -/
theorem isIgnorable_of_toJson? {value : Scalar} (readable : value.toJson?.isSome = true) :
    value.isIgnorable = true := by
  cases value with
  | integer value =>
      refine Word.wideHolds_of_holds ?_
      by_cases fits : Word.holds value = true
      · exact fits
      · simp [toJson?, fits] at readable
  | withoutValue => simp [toJson?] at readable
  | text | boolean | float | dateTime => rfl

end Scalar

def digitIn? (base : Nat) (c : Char) : Option Nat :=
  let value? :=
    if c.isDigit then some (c.toNat - '0'.toNat)
    else if 'a' ≤ c ∧ c ≤ 'f' then some (c.toNat - 'a'.toNat + 10)
    else if 'A' ≤ c ∧ c ≤ 'F' then some (c.toNat - 'A'.toNat + 10)
    else none
  value?.filter (· < base)

/-- The digits of a number, where a low line may stand between two digits. -/
def digits? (base : Nat) : List Char → Option (List Nat)
  | [] => none
  | [c] => (digitIn? base c).map ([·])
  | c :: '_' :: rest => do
      let digit ← digitIn? base c
      let others ← digits? base rest
      some (digit :: others)
  | c :: next :: rest => do
      let digit ← digitIn? base c
      let others ← digits? base (next :: rest)
      some (digit :: others)

def ofDigits (base : Nat) (digits : List Nat) : Nat :=
  digits.foldl (fun number digit => number * base + digit) 0

def wholeDigits? (text : List Char) : Option (List Nat) := do
  let digits ← digits? 10 text
  guard (digits.head? ≠ some 0 ∨ digits.length = 1)
  some digits

def splitSign : List Char → Bool × List Char
  | '-' :: rest => (true, rest)
  | '+' :: rest => (false, rest)
  | text => (false, text)

def based? (text : List Char) : Option Scalar :=
  let inBase := fun (base : Nat) (text : List Char) =>
    if text.isEmpty then some .withoutValue
    else (digits? base text).map (fun digits => Scalar.integer (ofDigits base digits))
  match text with
  | '0' :: 'x' :: rest => inBase 16 rest
  | '0' :: 'o' :: rest => inBase 8 rest
  | '0' :: 'b' :: rest => inBase 2 rest
  | _ => none

def decimalInteger? (text : List Char) : Option Scalar := do
  let digits ← wholeDigits? (splitSign text).2
  let magnitude := ofDigits 10 digits
  some (.integer (if (splitSign text).1 then -(magnitude : Int) else magnitude))

/-- Every low line stands between two digits, which may be hexadecimal. -/
def lowLinesPlaced : List Char → Bool
  | before :: '_' :: behind :: rest =>
      (digitIn? 16 before).isSome && (digitIn? 16 behind).isSome && lowLinesPlaced (behind :: rest)
  | '_' :: _ => false
  | _ :: rest => lowLinesPlaced rest
  | [] => true

/-- The character turns a number into one with a fraction or an exponent. -/
def isFloatMark (c : Char) : Bool :=
  c == '.' || c == 'e' || c == 'E'

/--
A decimal integer that goes on behind a low line with any characters.

Only its first digit, its first low line and the neighbours of its low lines are
checked, so it has no value.
-/
def looseInteger? (text : List Char) : Option Scalar :=
  let magnitude := (splitSign text).2
  let behind := magnitude.dropWhile Char.isDigit
  if magnitude.head? ≠ some '0' ∧ behind.head? = some '_' ∧ lowLinesPlaced magnitude ∧
      !behind.any isFloatMark then
    some .withoutValue
  else none

/-- The text in front of a mark, and the text behind it if there is a mark. -/
def splitAtMark (isMark : Char → Bool) (text : List Char) : List Char × Option (List Char) :=
  match text.dropWhile (fun c => !isMark c) with
  | [] => (text, none)
  | _ :: behind => (text.takeWhile (fun c => !isMark c), some behind)

def exponent? : Option (List Char) → Option Int
  | none => some 0
  | some text => do
      let digits ← digits? 10 (splitSign text).2
      let magnitude := ofDigits 10 digits
      some (if (splitSign text).1 then -(magnitude : Int) else magnitude)

/-- The digits behind a decimal point; there are none without a point. -/
def fraction? : Option (List Char) → Option (List Nat)
  | none => some []
  | some text => digits? 10 text

/-- A decimal number with a fraction, an exponent or both. -/
def decimalFloat? (text : List Char) : Option Scalar := do
  let (negative, magnitude) := splitSign text
  let (mantissa, exponentText) := splitAtMark (fun c => c == 'e' || c == 'E') magnitude
  let (wholeText, fractionText) := splitAtMark (· == '.') mantissa
  guard (exponentText.isSome ∨ fractionText.isSome)
  let whole ← wholeDigits? wholeText
  let fraction ← fraction? fractionText
  let exponent ← exponent? exponentText
  let value := Binary64.ofDecimal negative (ofDigits 10 (whole ++ fraction))
    (exponent - fraction.length)
  some (if value.isFinite then .float value else .withoutValue)

def wordFloat? (text : List Char) : Option Scalar :=
  let (negative, word) := splitSign text
  if word = "inf".toList then some (.float (.infinity negative))
  else if word = "nan".toList then some (.float .notANumber)
  else none

def boolean? (text : List Char) : Option Scalar :=
  if text = "true".toList then some (.boolean true)
  else if text = "false".toList then some (.boolean false)
  else none

def dateTime? (text : List Char) : Option Scalar :=
  (dateTimeText? text).map .dateTime

def scalar? (text : List Char) : Option Scalar :=
  boolean? text <|> wordFloat? text <|> based? text <|> decimalInteger? text <|>
    decimalFloat? text <|> dateTime? text <|> looseInteger? text

end Toml

end SqlCompiler
