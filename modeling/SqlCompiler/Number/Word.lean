/-!
# Bounds of words

Counts are unsigned 64-bit words and integer values are signed ones.  Both
kinds are kept as ordinary numbers that are compared with these bounds, except
where there is arithmetic on counts: that is done on the words themselves and
fails where a result has no room.  Words of 128 bits bound the integers that
nobody looks at.
-/

namespace SqlCompiler

namespace Word

def unsignedLimit : Nat := 0x10000000000000000

def signedLimit : Nat := 0x8000000000000000

def wideUnsignedLimit : Nat := 0x100000000000000000000000000000000

def wideSignedLimit : Nat := 0x80000000000000000000000000000000

/-- An integer fits in a signed or an unsigned 64-bit word. -/
def holds (value : Int) : Bool :=
  -(signedLimit : Int) ≤ value && value < (unsignedLimit : Int)

/-- An integer fits in a signed or an unsigned 128-bit word. -/
def wideHolds (value : Int) : Bool :=
  -(wideSignedLimit : Int) ≤ value && value < (wideUnsignedLimit : Int)

/-- The product of two unsigned 64-bit words, unless it needs more bits. -/
def product? (first second : UInt64) : Option UInt64 :=
  if first.toNat * second.toNat < unsignedLimit then some (first * second) else none

/-- The sum of two unsigned 64-bit words, unless it needs more bits. -/
def sum? (first second : UInt64) : Option UInt64 :=
  if first.toNat + second.toNat < unsignedLimit then some (first + second) else none

/-- What fits in a 64-bit word fits in a 128-bit word. -/
theorem wideHolds_of_holds {value : Int} (fits : holds value = true) : wideHolds value = true := by
  obtain ⟨lower, upper⟩ := Bool.and_eq_true_iff.mp fits
  have signed : (signedLimit : Int) ≤ wideSignedLimit := by decide
  have unsigned : (unsignedLimit : Int) ≤ wideUnsignedLimit := by decide
  have lower := of_decide_eq_true lower
  have upper := of_decide_eq_true upper
  refine Bool.and_eq_true_iff.mpr ⟨decide_eq_true ?_, decide_eq_true ?_⟩ <;> omega

/-- A wrapped result that is given out only if the whole one has room is the whole one. -/
theorem eq_some_iff_of_wraps {whole : Nat} {wrapped result : UInt64}
    (wraps : wrapped.toNat = whole % unsignedLimit) :
    (if whole < unsignedLimit then some wrapped else none) = some result ↔
      result.toNat = whole := by
  constructor
  · intro given
    split at given
    next fits =>
      cases given
      rw [wraps, Nat.mod_eq_of_lt fits]
    next => cases given
  · intro same
    have fits : whole < unsignedLimit := same ▸ result.toNat_lt
    rw [if_pos fits, Option.some_inj, ← UInt64.toNat_inj, wraps, Nat.mod_eq_of_lt fits, same]

theorem product?_eq_some_iff {first second result : UInt64} :
    product? first second = some result ↔ result.toNat = first.toNat * second.toNat :=
  eq_some_iff_of_wraps (UInt64.toNat_mul first second)

theorem sum?_eq_some_iff {first second result : UInt64} :
    sum? first second = some result ↔ result.toNat = first.toNat + second.toNat :=
  eq_some_iff_of_wraps (UInt64.toNat_add first second)

end Word

end SqlCompiler
