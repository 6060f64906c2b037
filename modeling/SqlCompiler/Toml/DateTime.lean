import SqlCompiler.Value.DateTime

/-!
# Dates and times in TOML

TOML knows dates, times of day, dates with times, and dates with times and an
offset from universal time.  The parts are separated by the letter T or one
space; the seconds may be missing, and digits behind the ninth place of a
fraction are dropped.  The canonical form always has the letter T, the
seconds, and no zeros at the end of the fraction.
-/

namespace SqlCompiler

namespace Toml

/-- A date of the calendar. -/
structure Date where
  year : Nat
  month : Nat
  day : Nat
  deriving DecidableEq, Repr

namespace Date

def isLeap (year : Nat) : Bool :=
  year % 4 == 0 && (year % 100 != 0 || year % 400 == 0)

def daysOf (year month : Nat) : Nat :=
  if month = 2 then if isLeap year then 29 else 28
  else if month = 4 ∨ month = 6 ∨ month = 9 ∨ month = 11 then 30
  else 31

def read (text : List Char) : Option (Date × List Char) := do
  let (year, rest) ← DateTime.readDigits 4 text
  let rest ← DateTime.readMark '-' rest
  let (month, rest) ← DateTime.readDigits 2 rest
  let rest ← DateTime.readMark '-' rest
  let (day, rest) ← DateTime.readDigits 2 rest
  guard (1 ≤ month ∧ month ≤ 12 ∧ 1 ≤ day ∧ day ≤ daysOf year month)
  some ({ year, month, day }, rest)

def text (date : Date) : String :=
  DateTime.padded 4 date.year ++ "-" ++ DateTime.padded 2 date.month ++ "-" ++
    DateTime.padded 2 date.day

end Date

/-- A time of day. -/
structure Time where
  hour : Nat
  minute : Nat
  second : Nat
  nanosecond : Nat
  deriving DecidableEq, Repr

namespace Time

def readFraction (text : List Char) : Option (Nat × List Char) := do
  let digits := text.takeWhile Char.isDigit
  guard (!digits.isEmpty)
  let (nanosecond, _) ← DateTime.readDigits 9 (digits ++ List.replicate 9 '0')
  some (nanosecond, text.dropWhile Char.isDigit)

/-- Read the seconds with their fraction, both of which may be missing. -/
def readSeconds (text : List Char) : Option ((Nat × Nat) × List Char) :=
  match text with
  | ':' :: rest => do
      let (second, rest) ← DateTime.readDigits 2 rest
      guard (second ≤ 60)
      match rest with
      | '.' :: rest =>
          let (nanosecond, rest) ← readFraction rest
          some ((second, nanosecond), rest)
      | rest => some ((second, 0), rest)
  | rest => some ((0, 0), rest)

def read (text : List Char) : Option (Time × List Char) := do
  let (hour, rest) ← DateTime.readDigits 2 text
  let rest ← DateTime.readMark ':' rest
  let (minute, rest) ← DateTime.readDigits 2 rest
  guard (hour ≤ 23 ∧ minute ≤ 59)
  let ((second, nanosecond), rest) ← readSeconds rest
  some ({ hour, minute, second, nanosecond }, rest)

/-- The fraction of a second in nine digits without the zeros at its end. -/
def fractionText (nanosecond : Nat) : String :=
  if nanosecond = 0 then ""
  else
    let digits := (DateTime.padded 9 nanosecond).toList
    "." ++ .ofList (digits.reverse.dropWhile (· == '0')).reverse

def text (time : Time) : String :=
  DateTime.padded 2 time.hour ++ ":" ++ DateTime.padded 2 time.minute ++ ":" ++
    DateTime.padded 2 time.second ++ fractionText time.nanosecond

end Time

/-- An offset from universal time. -/
inductive Offset where
  | universal
  | minutes (negative : Bool) (count : Nat)
  deriving DecidableEq, Repr

namespace Offset

def readMinutes (negative : Bool) (text : List Char) : Option (Offset × List Char) := do
  let (hour, rest) ← DateTime.readDigits 2 text
  let rest ← DateTime.readMark ':' rest
  let (minute, rest) ← DateTime.readDigits 2 rest
  guard (hour ≤ 23 ∧ minute ≤ 59)
  some (.minutes negative (hour * 60 + minute), rest)

def read (text : List Char) : Option (Offset × List Char) :=
  match text with
  | 'Z' :: rest => some (.universal, rest)
  | 'z' :: rest => some (.universal, rest)
  | '+' :: rest => readMinutes false rest
  | '-' :: rest => readMinutes true rest
  | _ => none

/-- The canonical form of an offset; no offset is negative zero. -/
def text : Offset → String
  | .universal => "Z"
  | .minutes negative count =>
      (if negative && count != 0 then "-" else "+") ++ DateTime.padded 2 (count / 60) ++ ":" ++
        DateTime.padded 2 (count % 60)

end Offset

def isDateSeparator (c : Char) : Bool :=
  c == 'T' || c == 't' || c == ' '

/-- The canonical form of a text that is a date, a time or both. -/
def dateTimeText? (text : List Char) : Option String :=
  match Date.read text with
  | some (date, []) => some date.text
  | some (date, separator :: rest) => do
      guard (isDateSeparator separator)
      let (time, rest) ← Time.read rest
      let dateAndTime := date.text ++ "T" ++ time.text
      if rest.isEmpty then some dateAndTime
      else do
        let (offset, rest) ← Offset.read rest
        guard rest.isEmpty
        some (dateAndTime ++ offset.text)
  | none => do
      let (time, rest) ← Time.read text
      guard rest.isEmpty
      some time.text

end Toml

end SqlCompiler
