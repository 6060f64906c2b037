import SqlCompiler.Json.Basic

/-!
# Reading JSON

The reader accepts exactly the JSON grammar, with at most 127 arrays and
objects inside each other, strings without lone surrogates, and no
floating-point number beyond the finite range.

An integer that fits in a signed or unsigned 64-bit word stays an integer;
minus zero does not.  Every other number becomes a floating-point word by a
fixed rule: the leading digits that fit in an unsigned 64-bit word are rounded
to a word, which is then scaled by a power of ten with one more rounding.
This can miss the nearest word by its last bit.

Each function returns what it read together with the rest of the text.  The
functions that call each other share a counter that bounds their calls; two
calls for every character are enough.
-/

namespace SqlCompiler

namespace Json

def depthLimit : Nat := 127

def skipSpace (text : List Char) : List Char :=
  text.dropWhile (fun c => c == ' ' || c == '\n' || c == '\t' || c == '\r')

def readWord (word : List Char) (text : List Char) : Option (List Char) :=
  if word.isPrefixOf text then some (text.drop word.length) else none

def digitValue (c : Char) : Nat :=
  c.toNat - '0'.toNat

/--
Read the digits of a decimal number into a significand that stays below the
word limit.

The result counts the digits that were taken and those that were passed over
because the next digit did not fit.
-/
def takeDigits (significand : Nat) (taken skipped : Nat) : List Char → (Nat × Nat × Nat) × List Char
  | [] => ((significand, taken, skipped), [])
  | c :: rest =>
      if c.isDigit then
        if skipped = 0 ∧ significand * 10 + digitValue c < Word.unsignedLimit then
          takeDigits (significand * 10 + digitValue c) (taken + 1) skipped rest
        else
          takeDigits significand taken (skipped + 1) rest
      else ((significand, taken, skipped), c :: rest)

/--
Scale a word by a power of ten, in steps of at most 308 places downwards.

Three steps take every significand below the word limit to zero.
-/
def scale (x : Binary64) (exponent : Int) : Nat → Option Binary64
  | 0 => some x
  | steps + 1 =>
      if exponent.natAbs ≤ 308 then
        if 0 ≤ exponent then
          let product := x.mul (.powerOfTen exponent.natAbs)
          if product.isFinite then some product else none
        else some (x.div (.powerOfTen exponent.natAbs))
      else if x.isZero then some x
      else if 0 ≤ exponent then none
      else scale (x.div (.powerOfTen 308)) (exponent + 308) steps

/-- A floating-point number from its sign, its leading digits and its exponent. -/
def floatOf (negative : Bool) (significand : Nat) (exponent : Int) : Option Json.Number :=
  (scale (.ofInt significand) exponent 4).map
    (fun x => .float (if negative then x.neg else x))

/-- The number without a fraction or exponent whose digits all fitted. -/
def integerOf (negative : Bool) (significand : Nat) : Json.Number :=
  if negative then
    if 0 < significand ∧ significand ≤ Word.signedLimit then .integer (-significand)
    else .float (Binary64.neg (.ofInt significand))
  else .integer significand

def readExponent (text : List Char) : Option (Option Int × List Char) :=
  match text with
  | mark :: rest =>
      if mark = 'e' ∨ mark = 'E' then
        let (negative, digits) :=
          match rest with
          | '+' :: digits => (false, digits)
          | '-' :: digits => (true, digits)
          | digits => (false, digits)
        let value := (digits.takeWhile Char.isDigit).foldl (fun n c => n * 10 + digitValue c) 0
        if (digits.takeWhile Char.isDigit).isEmpty then none
        else some (some (if negative then -(value : Int) else value), digits.dropWhile Char.isDigit)
      else some (none, text)
  | [] => some (none, [])

/-- Read a number behind its sign; beyond the finite range it has no value. -/
def readMagnitude (negative : Bool) (text : List Char) :
    Option (Option Json.Number × List Char) := do
  let first ← text.head?
  let second := text.drop 1
  guard first.isDigit
  guard (!(first == '0' && (second.head?.any Char.isDigit)))
  let ((whole, _, skipped), rest) := takeDigits 0 0 0 text
  match rest with
  | '.' :: fraction =>
      guard (fraction.head?.any Char.isDigit)
      let ((significand, taken, _), rest) := takeDigits whole 0 0 fraction
      let (exponent, rest) ← readExponent rest
      some (floatOf negative significand (skipped - taken + exponent.getD 0), rest)
  | _ =>
      let (exponent, rest) ← readExponent rest
      if skipped = 0 ∧ exponent.isNone then
        some (some (integerOf negative whole), rest)
      else
        some (floatOf negative whole (skipped + exponent.getD 0), rest)

/-- Read a number; beyond the finite range it has no value. -/
def readNumber (text : List Char) : Option (Option Json.Number × List Char) :=
  match text with
  | '-' :: rest => readMagnitude true rest
  | _ => readMagnitude false text

def hexValue? (c : Char) : Option Nat :=
  if c.isDigit then some (c.toNat - '0'.toNat)
  else if 'a' ≤ c ∧ c ≤ 'f' then some (c.toNat - 'a'.toNat + 10)
  else if 'A' ≤ c ∧ c ≤ 'F' then some (c.toNat - 'A'.toNat + 10)
  else none

def readUnit (text : List Char) : Option (Nat × List Char) := do
  let value ← (text.take 4).foldlM (fun n c => (hexValue? c).map (n * 16 + ·)) 0
  guard ((text.take 4).length = 4)
  some (value, text.drop 4)

/-- Read an escaped character behind its `\u`; a surrogate needs its partner. -/
def readEscapedUnit (text : List Char) : Option (Char × List Char) := do
  let (unit, rest) ← readUnit text
  if unit < 0xD800 ∨ 0xE000 ≤ unit then
    some (Char.ofNat unit, rest)
  else
    guard (unit < 0xDC00)
    let rest ← readWord ['\\', 'u'] rest
    let (second, rest) ← readUnit rest
    guard (0xDC00 ≤ second ∧ second < 0xE000)
    some (Char.ofNat (0x10000 + (unit - 0xD800) * 0x400 + (second - 0xDC00)), rest)

/-- The character that a mark behind a backslash stands for. -/
def markedCharacter? (mark : Char) : Option Char :=
  match mark with
  | '"' => some '"'
  | '\\' => some '\\'
  | '/' => some '/'
  | 'b' => some (Char.ofNat 8)
  | 'f' => some (Char.ofNat 12)
  | 'n' => some '\n'
  | 'r' => some '\r'
  | 't' => some '\t'
  | _ => none

/-- Read the rest of a string, its closing quotation mark included. -/
def readStringTail (read : List Char) : Nat → List Char → Option (String × List Char)
  | 0, _ => none
  | fuel + 1, text =>
      match text with
      | [] => none
      | '"' :: rest => some (.ofList read.reverse, rest)
      | '\\' :: 'u' :: rest => do
          let (c, rest) ← readEscapedUnit rest
          readStringTail (c :: read) fuel rest
      | '\\' :: mark :: rest => do
          let c ← markedCharacter? mark
          readStringTail (c :: read) fuel rest
      | c :: rest => do
          guard (32 ≤ c.toNat)
          readStringTail (c :: read) fuel rest

def readString (text : List Char) : Option (String × List Char) :=
  readStringTail [] (text.length + 1) text

mutual

def readDocument (depth : Nat) : Nat → List Char → Option (Json × List Char)
  | 0, _ => none
  | fuel + 1, text =>
      match text with
      | [] => none
      | '"' :: rest => do
          let (value, rest) ← readString rest
          some (.string value, rest)
      | '[' :: rest => do
          guard (depth < depthLimit)
          match skipSpace rest with
          | ']' :: rest => some (.array [], rest)
          | rest =>
              let (items, rest) ← readItems (depth + 1) fuel rest
              some (.array items, rest)
      | '\x7b' :: rest => do
          guard (depth < depthLimit)
          match skipSpace rest with
          | '\x7d' :: rest => some (.object [], rest)
          | rest =>
              let (members, rest) ← readMembers (depth + 1) fuel rest
              some (.object members, rest)
      | c :: _ =>
          if c = 'n' then (readWord "null".toList text).map (fun rest => (.null, rest))
          else if c = 't' then (readWord "true".toList text).map (fun rest => (.bool true, rest))
          else if c = 'f' then (readWord "false".toList text).map (fun rest => (.bool false, rest))
          else do
            let (found, rest) ← readNumber text
            let value ← found
            some (.number value, rest)

def readItems (depth : Nat) : Nat → List Char → Option (List Json × List Char)
  | 0, _ => none
  | fuel + 1, text => do
      let (item, rest) ← readDocument depth fuel (skipSpace text)
      match skipSpace rest with
      | ']' :: rest => some ([item], rest)
      | ',' :: rest =>
          let (items, rest) ← readItems depth fuel rest
          some (item :: items, rest)
      | _ => none

/-- Read the members of an object and its closing brace. -/
def readMembers (depth : Nat) : Nat → List Char → Option (List (String × Json) × List Char)
  | 0, _ => none
  | fuel + 1, text => do
      let rest ← readWord ['"'] (skipSpace text)
      let (key, rest) ← readString rest
      let rest ← readWord [':'] (skipSpace rest)
      let (value, rest) ← readDocument depth fuel (skipSpace rest)
      match skipSpace rest with
      | '\x7d' :: rest => some ([(key, value)], rest)
      | ',' :: rest =>
          let (members, rest) ← readMembers depth fuel rest
          some ((key, value) :: members, rest)
      | _ => none

end

def enoughCalls (text : List Char) : Nat :=
  2 * text.length + 2

def read? (text : String) : Option Json := do
  let characters := text.toList
  let (document, rest) ← readDocument 0 (enoughCalls characters) (skipSpace characters)
  guard (skipSpace rest).isEmpty
  some document

end Json

end SqlCompiler
