import SqlCompiler.Number.Word

/-!
# Floating-point numbers as 64-bit words

Floating-point values are only carried, read and written, never computed with
on behalf of a user.  They are therefore kept as the words of the IEEE format
`binary64`: a sign bit, eleven exponent bits and fifty-two fraction bits.  A
finite word denotes a significand times a power of two.  The one rounding
rule, `nearest`, takes an exact quotient of natural numbers to the closest
word, and to the even one of two equally close words.
-/

namespace SqlCompiler

/-- A floating-point number in the format `binary64`, given by its bits. -/
structure Binary64 where
  bits : UInt64
  deriving DecidableEq, Repr

namespace Binary64

def fractionWidth : Nat := 52

/-- One more than the greatest fraction, which is the weight of the leading one. -/
def fractionLimit : Nat := 1 <<< fractionWidth

/-- The exponent field of infinities and of values that are no numbers. -/
def topExponent : Nat := 2047

/-- The power of two by which the least positive word is scaled. -/
def leastPower : Int := -1074

def isNegative (x : Binary64) : Bool :=
  Word.signedLimit ≤ x.bits.toNat

def exponentField (x : Binary64) : Nat :=
  x.bits.toNat / fractionLimit % (topExponent + 1)

def fractionField (x : Binary64) : Nat :=
  x.bits.toNat % fractionLimit

/-- The word denotes a number, neither an infinity nor a value that is no number. -/
def isFinite (x : Binary64) : Bool :=
  x.exponentField != topExponent

/-- The significand of a finite word, with the leading one that the format leaves out. -/
def significand (x : Binary64) : Nat :=
  if x.exponentField = 0 then x.fractionField
  else fractionLimit + x.fractionField

/-- The power of two by which the significand of a finite word is scaled. -/
def power (x : Binary64) : Int :=
  (max x.exponentField 1 : Nat) - 1 + leastPower

def isZero (x : Binary64) : Bool :=
  x.exponentField == 0 && x.fractionField == 0

/-- The word with a given sign and a given magnitude, counted from zero upwards. -/
def ofMagnitude (negative : Bool) (magnitude : Nat) : Binary64 :=
  ⟨.ofNat (magnitude + if negative then Word.signedLimit else 0)⟩

def infinity (negative : Bool) : Binary64 :=
  ofMagnitude negative (topExponent * fractionLimit)

def zero (negative : Bool) : Binary64 :=
  ofMagnitude negative 0

def notANumber : Binary64 :=
  ofMagnitude false (topExponent * fractionLimit + fractionLimit / 2)

/-- A quotient rounded to the nearest natural number, and to the even one of two. -/
def roundQuotient (numerator denominator : Nat) : Nat :=
  let quotient := numerator / denominator
  let twice := 2 * (numerator % denominator)
  if twice < denominator then quotient
  else if denominator < twice then quotient + 1
  else quotient + quotient % 2

/-- A quotient divided by a power of two, as a quotient again. -/
def scaleDown (numerator denominator : Nat) (power : Int) : Nat × Nat :=
  match power with
  | .ofNat shift => (numerator, denominator <<< shift)
  | .negSucc shift => (numerator <<< (shift + 1), denominator)

/-- The power of two that leaves a positive quotient with `precision` bits or the least power. -/
def powerFor (precision : Nat) (least : Int) (numerator denominator : Nat) : Int :=
  let estimate : Int := (numerator.log2 : Int) - denominator.log2
  let scaled := scaleDown numerator denominator estimate
  let exponent := if scaled.1 < scaled.2 then estimate - 1 else estimate
  max (exponent - (precision - 1 : Nat)) least

/--
The word nearest to a quotient, and the even one of two equally near words.

The magnitudes of all words are consecutive, so a significand that rounds up
to the next power of two gives the right word without further care, and a
magnitude above all finite ones is an infinity.
-/
def nearest (negative : Bool) (numerator denominator : Nat) : Binary64 :=
  if numerator = 0 then
    zero negative
  else
    let power := powerFor (fractionWidth + 1) leastPower numerator denominator
    let scaled := scaleDown numerator denominator power
    let magnitude :=
      (power - leastPower).toNat * fractionLimit + roundQuotient scaled.1 scaled.2
    if topExponent * fractionLimit ≤ magnitude then infinity negative
    else ofMagnitude negative magnitude

def ofInt (value : Int) : Binary64 :=
  nearest (value < 0) value.natAbs 1

def toQuotient (x : Binary64) : Nat × Nat :=
  match x.power with
  | .ofNat shift => (x.significand <<< shift, 1)
  | .negSucc shift => (x.significand, 1 <<< (shift + 1))

def mul (x y : Binary64) : Binary64 :=
  nearest (x.isNegative != y.isNegative)
    (x.toQuotient.1 * y.toQuotient.1) (x.toQuotient.2 * y.toQuotient.2)

/-- The rounded quotient of two finite words, of which the second is not zero. -/
def div (x y : Binary64) : Binary64 :=
  nearest (x.isNegative != y.isNegative)
    (x.toQuotient.1 * y.toQuotient.2) (x.toQuotient.2 * y.toQuotient.1)

def neg (x : Binary64) : Binary64 :=
  ofMagnitude (!x.isNegative) (x.bits.toNat % Word.signedLimit)

def powerOfTen (exponent : Nat) : Binary64 :=
  nearest false (Nat.pow 10 exponent) 1

/--
The word nearest to the decimal number `digits * 10 ^ exponent`.

A number with more than 310 places before its decimal point is above all finite
words and one with more than 330 zeros behind it is below half the least word,
so these two are decided without the power of ten.
-/
def ofDecimal (negative : Bool) (digits : Nat) (exponent : Int) : Binary64 :=
  let places : Int := (Nat.toDigits 10 digits).length + exponent
  if digits = 0 then zero negative
  else if 310 < places then infinity negative
  else if places < -330 then zero negative
  else
    match exponent with
    | .ofNat shift => nearest negative (digits * Nat.pow 10 shift) 1
    | .negSucc shift => nearest negative digits (Nat.pow 10 (shift + 1))

/--
The nearest value in the short format `binary32`, as a 64-bit word.

The short format has twenty-four significant bits, the least power −149 and
the largest magnitude below two to the power 128.
-/
def toShort (x : Binary64) : Binary64 :=
  if !x.isFinite || x.isZero then x
  else
    let quotient := x.toQuotient
    let power := powerFor 24 (-149) quotient.1 quotient.2
    let scaled := scaleDown quotient.1 quotient.2 power
    let short := roundQuotient scaled.1 scaled.2
    match power with
    | .ofNat shift =>
        if 1 <<< 128 ≤ short <<< shift then infinity x.isNegative
        else nearest x.isNegative (short <<< shift) 1
    | .negSucc shift => nearest x.isNegative short (1 <<< (shift + 1))

end Binary64

end SqlCompiler
