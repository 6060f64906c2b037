import SqlCompiler.Json.Basic
import SqlCompiler.Number.Shortest

/-!
# The compact notation of JSON

Documents are written without space.  A string escapes the quotation mark,
the backslash and the control characters, and nothing else.  A floating-point
number is written with the fewest digits that read back: in positional
notation from 1e-5 up to below 1e16, always with a digit behind the point, and
with a signed exponent outside that range.
-/

namespace SqlCompiler

namespace Json

def escaped (c : Char) : List Char :=
  if c = '"' then ['\\', '"']
  else if c = '\\' then ['\\', '\\']
  else if c.toNat = 8 then ['\\', 'b']
  else if c.toNat = 9 then ['\\', 't']
  else if c.toNat = 10 then ['\\', 'n']
  else if c.toNat = 12 then ['\\', 'f']
  else if c.toNat = 13 then ['\\', 'r']
  else if c.toNat < 32 then
    ['\\', 'u', '0', '0', Nat.digitChar (c.toNat / 16), Nat.digitChar (c.toNat % 16)]
  else [c]

def quotedText (text : String) : String :=
  .ofList ('"' :: text.toList.flatMap escaped ++ ['"'])

/-- A decimal number without the zeros at the end of its digits. -/
def stripZeros (digits : Nat) (exponent : Int) : Nat → DecimalNumber
  | 0 => ⟨digits, exponent⟩
  | fuel + 1 =>
      if digits % 10 = 0 ∧ digits ≠ 0 then stripZeros (digits / 10) (exponent + 1) fuel
      else ⟨digits, exponent⟩

/-- Positional notation reaches up to this many places before the point. -/
def mostPlaces : Int := 16

/-- Positional notation reaches down to fewer than this many zeros behind the point. -/
def mostZeros : Int := 5

def decimalText (number : DecimalNumber) : String :=
  let stripped := stripZeros number.digits number.exponent 20
  let digits := Nat.toDigits 10 stripped.digits
  let places : Int := digits.length + stripped.exponent
  if 0 < places ∧ places ≤ mostPlaces then
    if 0 ≤ stripped.exponent then
      .ofList (digits ++ List.replicate stripped.exponent.toNat '0' ++ ['.', '0'])
    else
      .ofList (digits.take places.toNat ++ '.' :: digits.drop places.toNat)
  else if -mostZeros < places ∧ places ≤ 0 then
    .ofList ('0' :: '.' :: List.replicate (-places).toNat '0' ++ digits)
  else
    let fraction := if digits.length = 1 then [] else '.' :: digits.drop 1
    let sign := if 0 < places then '+' else '-'
    .ofList (digits.take 1 ++ fraction ++ 'e' :: sign :: Nat.toDigits 10 (places - 1).natAbs)

/-- The written form of a floating-point number; those that are not finite are null. -/
def floatText (x : Binary64) : String :=
  if !x.isFinite then "null"
  else
    let magnitude := if x.isZero then "0.0" else decimalText x.shortest
    if x.isNegative then "-" ++ magnitude else magnitude

def Number.text : Number → String
  | .integer value => toString value
  | .float value => floatText value

mutual

def text : Json → String
  | .null => "null"
  | .bool value => if value then "true" else "false"
  | .number value => value.text
  | .string value => quotedText value
  | .array items => "[" ++ ",".intercalate (itemTexts items) ++ "]"
  | .object members => "\x7b" ++ ",".intercalate (memberTexts members) ++ "\x7d"

def itemTexts : List Json → List String
  | [] => []
  | item :: rest => text item :: itemTexts rest

def memberTexts : List (String × Json) → List String
  | [] => []
  | (key, value) :: rest => (quotedText key ++ ":" ++ text value) :: memberTexts rest

end

end Json

end SqlCompiler
