import Mathlib.Tactic.Ring
import SqlCompiler.Number.Binary64

/-!
# Integers as floating-point numbers

An integer is rounded to fifty-three bits.  As long as it is below the greatest
power of two of the format, rounding up does not reach the infinities, so the
result is finite.  That holds of every integer that fits in a 64-bit word.
-/

namespace SqlCompiler

namespace Binary64

theorem isFinite_ofMagnitude {magnitude : Nat} (negative : Bool)
    (small : magnitude < topExponent * fractionLimit) :
    (ofMagnitude negative magnitude).isFinite = true := by
  have limit : fractionLimit = 4503599627370496 := rfl
  have top : topExponent = 2047 := rfl
  have sign : Word.signedLimit = 9223372036854775808 := rfl
  rw [limit, top] at small
  have field : (ofMagnitude negative magnitude).exponentField < topExponent := by
    simp only [exponentField, ofMagnitude, UInt64.toNat_ofNat', limit, top, sign]
    cases negative <;> simp only [Bool.false_eq_true, if_true, if_false] <;> omega
  exact bne_iff_ne.mpr field.ne

theorem roundQuotient_le (numerator denominator : Nat) :
    roundQuotient numerator denominator ≤ numerator / denominator + 1 := by
  have parity : numerator / denominator % 2 < 2 := Nat.mod_lt _ (by decide)
  unfold roundQuotient
  dsimp only
  split
  next => omega
  next => split <;> omega

variable {number : Nat}

/-- An integer is scaled by the power of two that leaves it with the bits of a significand. -/
theorem powerFor_integer (positive : number ≠ 0) (small : number.log2 < 1023) :
    powerFor (fractionWidth + 1) leastPower number 1 = (number.log2 : Int) - fractionWidth := by
  have one : Nat.log2 1 = 0 := by decide
  have estimate : (number.log2 : Int) - (Nat.log2 1 : Int) = .ofNat number.log2 := by
    rw [one, Int.ofNat_eq_natCast]
    omega
  have reached : ¬number < 1 <<< number.log2 := by
    rw [Nat.one_shiftLeft, not_lt]
    exact Nat.log2_self_le positive
  simp only [powerFor, estimate, scaleDown, if_neg reached]
  have width : fractionWidth = 52 := rfl
  have least : leastPower = -1074 := rfl
  rw [width, least, Int.ofNat_eq_natCast]
  omega

theorem scaled_integer_lt (number : Nat) :
    (scaleDown number 1 ((number.log2 : Int) - fractionWidth)).1 /
        (scaleDown number 1 ((number.log2 : Int) - fractionWidth)).2 < 2 * fractionLimit := by
  have below := Nat.lt_log2_self (n := number)
  obtain wide | narrow := le_or_gt fractionWidth number.log2
  · obtain ⟨shift, bits⟩ := Nat.exists_eq_add_of_le wide
    have power : (number.log2 : Int) - fractionWidth = .ofNat shift := by
      rw [Int.ofNat_eq_natCast]
      omega
    rw [power]
    refine Nat.div_lt_of_lt_mul ?_
    rw [bits] at below
    have scale : 1 <<< shift * (2 * fractionLimit) = 1 <<< (fractionWidth + shift + 1) := by
      simp only [fractionLimit, Nat.one_shiftLeft]
      ring
    change number < 1 <<< shift * (2 * fractionLimit)
    rw [scale, Nat.one_shiftLeft]
    exact below
  · obtain ⟨shift, bits⟩ := Nat.exists_eq_add_of_lt narrow
    have power : (number.log2 : Int) - fractionWidth = .negSucc shift := by
      rw [Int.negSucc_eq]
      omega
    rw [power]
    have scale : 2 * fractionLimit = (1 <<< (number.log2 + 1)) * 1 <<< (shift + 1) := by
      rw [fractionLimit, bits]
      simp only [Nat.one_shiftLeft]
      ring
    change number <<< (shift + 1) / 1 < 2 * fractionLimit
    rw [Nat.div_one, scale, Nat.shiftLeft_eq, Nat.one_shiftLeft, Nat.one_shiftLeft]
    exact Nat.mul_lt_mul_of_pos_right below (Nat.two_pow_pos _)

theorem isFinite_nearest_integer (positive : number ≠ 0) (negative : Bool)
    (small : number.log2 < 1023) :
    (nearest negative number 1).isFinite = true := by
  have limit : fractionLimit = 4503599627370496 := rfl
  have top : topExponent = 2047 := rfl
  have width : fractionWidth = 52 := rfl
  have least : leastPower = -1074 := rfl
  have scaled := scaled_integer_lt number
  have rounded := roundQuotient_le
    (scaleDown number 1 ((number.log2 : Int) - fractionWidth)).1
    (scaleDown number 1 ((number.log2 : Int) - fractionWidth)).2
  rw [nearest, if_neg positive, powerFor_integer positive small]
  dsimp only
  generalize roundQuotient _ _ = significand at rounded ⊢
  generalize (scaleDown number 1 ((number.log2 : Int) - fractionWidth)).1 /
    (scaleDown number 1 ((number.log2 : Int) - fractionWidth)).2 = quotient at scaled rounded
  have bounded : ((number.log2 : Int) - fractionWidth - leastPower).toNat * fractionLimit +
      significand < topExponent * fractionLimit := by
    rw [limit] at scaled ⊢
    rw [top, width, least]
    omega
  rw [if_neg (Nat.not_le.mpr bounded)]
  exact isFinite_ofMagnitude negative bounded

theorem isFinite_ofInt {value : Int} (fits : Word.holds value = true) :
    (ofInt value).isFinite = true := by
  obtain ⟨lower, upper⟩ := Bool.and_eq_true_iff.mp fits
  have lower := of_decide_eq_true lower
  have upper := of_decide_eq_true upper
  rw [ofInt]
  by_cases zero : value.natAbs = 0
  · rw [zero]
    cases decide (value < 0) <;> rfl
  · refine isFinite_nearest_integer zero _ ?_
    have word : value.natAbs ≤ Word.unsignedLimit := by
      have signed : (Word.signedLimit : Int) ≤ Word.unsignedLimit := by decide
      omega
    have bits : value.natAbs.log2 < 65 :=
      (Nat.log2_lt zero).mpr (Nat.lt_of_le_of_lt word (by decide))
    omega

end Binary64

end SqlCompiler
