/-!
# Dates with a time of day

A date with a time of day has no zone.  It is written in the ISO form with a
`T` between its halves.  A fraction of a second is left out when it is zero;
otherwise it has three, six or nine digits, the fewest that are exact.
-/

namespace SqlCompiler

/-- A date with a time of day. -/
structure DateTime where
  year : Nat
  month : Nat
  day : Nat
  hour : Nat
  minute : Nat
  second : Nat
  nanosecond : Nat
  deriving DecidableEq, Repr

namespace DateTime

def padded (width number : Nat) : String :=
  let digits := Nat.toDigits 10 number
  .ofList (List.replicate (width - digits.length) '0' ++ digits)

/-- The fraction of a second with its point, in the fewest groups of three digits. -/
def fractionText (nanosecond : Nat) : String :=
  if nanosecond = 0 then ""
  else if nanosecond % 1000000 = 0 then "." ++ padded 3 (nanosecond / 1000000)
  else if nanosecond % 1000 = 0 then "." ++ padded 6 (nanosecond / 1000)
  else "." ++ padded 9 nanosecond

def text (moment : DateTime) : String :=
  padded 4 moment.year ++ "-" ++ padded 2 moment.month ++ "-" ++ padded 2 moment.day ++ "T" ++
    padded 2 moment.hour ++ ":" ++ padded 2 moment.minute ++ ":" ++ padded 2 moment.second ++
    fractionText moment.nanosecond

def readDigits (count : Nat) (text : List Char) : Option (Nat × List Char) := do
  let digits := text.take count
  guard (digits.length = count ∧ digits.all Char.isDigit)
  some (digits.foldl (fun n c => n * 10 + (c.toNat - '0'.toNat)) 0, text.drop count)

def readMark (mark : Char) (text : List Char) : Option (List Char) :=
  if text.head? = some mark then some (text.drop 1) else none

/-- Read the fraction of a second; digits behind the ninth are dropped. -/
def readFraction (text : List Char) : Option Nat :=
  match text with
  | [] => some 0
  | '.' :: digits =>
      if digits.isEmpty || !digits.all Char.isDigit then none
      else (readDigits 9 ((digits ++ List.replicate 9 '0').take 9)).map Prod.fst
  | _ => none

def parse? (text : String) : Option DateTime := do
  let (year, rest) ← readDigits 4 text.toList
  let rest ← readMark '-' rest
  let (month, rest) ← readDigits 2 rest
  let rest ← readMark '-' rest
  let (day, rest) ← readDigits 2 rest
  let rest ← readMark 'T' rest
  let (hour, rest) ← readDigits 2 rest
  let rest ← readMark ':' rest
  let (minute, rest) ← readDigits 2 rest
  let rest ← readMark ':' rest
  let (second, rest) ← readDigits 2 rest
  let nanosecond ← readFraction rest
  some { year, month, day, hour, minute, second, nanosecond }

end DateTime

end SqlCompiler
