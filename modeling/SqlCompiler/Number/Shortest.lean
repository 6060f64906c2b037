import SqlCompiler.Number.Binary64

/-!
# The fewest digits that read back

A finite floating-point number other than zero is written with the fewest
decimal digits that still lie closer to it than to any other number of the
format.  All numbers that round to the given one form an interval; its ends
belong to it exactly when the significand is even.  For one, two, … seventeen
digits the two neighbours of the number on that decimal grid are tested in
exact arithmetic.  The first grid with a hit wins, of two hits the nearer, and
of two equally near ones the even.
-/

namespace SqlCompiler

/-- A positive decimal number `digits * 10 ^ exponent`. -/
structure DecimalNumber where
  digits : Nat
  exponent : Int
  deriving DecidableEq, Repr

namespace Binary64

/--
Four times a positive number and the ends of its rounding interval, over one
denominator.
-/
structure RoundingInterval where
  value : Nat
  low : Nat
  high : Nat
  denominator : Nat
  closed : Bool

/--
The interval of the numbers that round to a finite positive word.

The gap below a power of two is half the gap above it, except at the least
power.
-/
def roundingInterval (x : Binary64) : RoundingInterval :=
  let scale := scaleDown 1 1 (2 - x.power)
  let below := if x.fractionField = 0 ∧ 1 < x.exponentField then 1 else 2
  { value := 4 * x.significand * scale.1
    low := (4 * x.significand - below) * scale.1
    high := (4 * x.significand + 2) * scale.1
    denominator := scale.2
    closed := x.significand % 2 == 0 }

namespace RoundingInterval

/-- The decimal number `digits * 10 ^ exponent` lies in the interval. -/
def contains (interval : RoundingInterval) (digits : Nat) (exponent : Int) : Bool :=
  let point :=
    match exponent with
    | .ofNat shift => (digits * Nat.pow 10 shift * interval.denominator, 1)
    | .negSucc shift => (digits * interval.denominator, Nat.pow 10 (shift + 1))
  if interval.closed then
    interval.low * point.2 ≤ point.1 && point.1 ≤ interval.high * point.2
  else
    interval.low * point.2 < point.1 && point.1 < interval.high * point.2

/-- The value in units of `10 ^ exponent`, as a quotient. -/
def inUnits (interval : RoundingInterval) (exponent : Int) : Nat × Nat :=
  match exponent with
  | .ofNat shift => (interval.value, interval.denominator * Nat.pow 10 shift)
  | .negSucc shift => (interval.value * Nat.pow 10 (shift + 1), interval.denominator)

/-- The number of places before the decimal point, negative for leading zeros behind it. -/
def places (interval : RoundingInterval) : Int :=
  (Nat.toDigits 10 (interval.value * Nat.pow 10 340 / interval.denominator)).length - 340

/-- The neighbour on the grid `10 ^ exponent` that reads back, if there is one. -/
def onGrid? (interval : RoundingInterval) (exponent : Int) : Option Nat :=
  let units := interval.inUnits exponent
  let nearer := roundQuotient units.1 units.2
  let floor := units.1 / units.2
  let farther := if nearer = floor then floor + 1 else floor
  if interval.contains nearer exponent then some nearer
  else if interval.contains farther exponent then some farther
  else none

def nearestOnGrid (interval : RoundingInterval) (exponent : Int) : Nat :=
  roundQuotient (interval.inUnits exponent).1 (interval.inUnits exponent).2

/--
The first of `more` grids from the one with `count` digits on which a neighbour
reads back, and the nearest number on the grid behind them otherwise.
-/
def shortestFrom (interval : RoundingInterval) (count : Nat) : Nat → DecimalNumber
  | 0 => ⟨interval.nearestOnGrid (interval.places - count), interval.places - count⟩
  | more + 1 =>
      match interval.onGrid? (interval.places - count) with
      | some digits => ⟨digits, interval.places - count⟩
      | none => interval.shortestFrom (count + 1) more

end RoundingInterval

/-- The shortest decimal number that rounds to a finite word other than zero. -/
def shortest (x : Binary64) : DecimalNumber :=
  x.roundingInterval.shortestFrom 1 16

end Binary64

end SqlCompiler
