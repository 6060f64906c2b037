import Mathlib.Data.Option.Basic
import SqlCompiler.Json.Reader
import SqlCompiler.Json.Writer

/-!
# Strings and integers of JSON

The writer escapes every character on its own, so the reader takes one step for
each character, whatever is written behind it.  The reader takes the digits of
an integer one by one as long as their number fits in a word, and it stops at
the character behind them, which closes a value or separates two.
-/

namespace SqlCompiler

namespace Json

/-! ## Strings -/

theorem hexValue?_digitChar : ∀ digit < 16, hexValue? (Nat.digitChar digit) = some digit := by
  decide

theorem readEscapedUnit_control {code : Nat} (control : code < 32) (rest : List Char) :
    readEscapedUnit ('0' :: '0' :: Nat.digitChar (code / 16) :: Nat.digitChar (code % 16) :: rest) =
      some (Char.ofNat code, rest) := by
  have zero : hexValue? '0' = some 0 := rfl
  have high := hexValue?_digitChar (code / 16) (by omega)
  have low := hexValue?_digitChar (code % 16) (by omega)
  have unit : readUnit ('0' :: '0' :: Nat.digitChar (code / 16) ::
      Nat.digitChar (code % 16) :: rest) = some (code, rest) := by
    simp [readUnit, zero, high, low, Nat.div_add_mod', guard]
  have basic : code < 0xD800 ∨ 0xE000 ≤ code := by omega
  simp only [readEscapedUnit, unit, Option.bind_eq_bind, Option.bind_some, if_pos basic]

/-- Whatever a character is written as, the reader gets it back in one step. -/
theorem readStringTail_escaped (read : List Char) (fuel : Nat) (c : Char) (rest : List Char) :
    readStringTail read (fuel + 1) (escaped c ++ rest) = readStringTail (c :: read) fuel rest := by
  have code : ∀ {number : Nat}, c.toNat = number → c = Char.ofNat number := by
    rintro number rfl
    exact (Char.ofNat_toNat c).symm
  by_cases quote : c = '"'
  · subst quote
    rfl
  by_cases backslash : c = '\\'
  · subst backslash
    rfl
  by_cases named : c.toNat ∈ [8, 9, 10, 12, 13]
  · simp only [List.mem_cons, List.not_mem_nil, or_false] at named
    obtain equal | equal | equal | equal | equal := named <;>
      rw [code equal] <;> rfl
  · simp only [List.mem_cons, List.not_mem_nil, or_false, not_or] at named
    obtain ⟨not8, not9, not10, not12, not13⟩ := named
    by_cases control : c.toNat < 32
    · simp only [escaped, quote, backslash, not8, not9, not10, not12, not13, control, if_true,
        if_false, List.cons_append, List.nil_append, readStringTail,
        readEscapedUnit_control control, Char.ofNat_toNat, Option.bind_eq_bind, Option.bind_some]
    · have printable : 32 ≤ c.toNat := by omega
      simp [escaped, quote, backslash, not8, not9, not10, not12, not13, control, readStringTail,
        printable, guard]

theorem readStringTail_flatMap (text : List Char) (read : List Char) {fuel : Nat}
    (enough : text.length < fuel) (rest : List Char) :
    readStringTail read fuel (text.flatMap escaped ++ '"' :: rest) =
      some (.ofList (read.reverse ++ text), rest) := by
  induction text generalizing read fuel with
  | nil =>
      obtain ⟨fuel, rfl⟩ : ∃ less, fuel = less + 1 := ⟨fuel - 1, by omega⟩
      simp [readStringTail]
  | cons c text ih =>
      obtain ⟨fuel, rfl⟩ : ∃ less, fuel = less + 1 := ⟨fuel - 1, by omega⟩
      rw [List.flatMap_cons, List.append_assoc, readStringTail_escaped,
        ih (c :: read) (Nat.lt_of_succ_lt_succ enough), List.reverse_cons, List.append_assoc,
        List.singleton_append]

theorem length_le_flatMap_escaped (text : List Char) :
    text.length ≤ (text.flatMap escaped).length := by
  induction text with
  | nil => exact Nat.le_refl 0
  | cons c text ih =>
      have nonempty : 0 < (escaped c).length := by grind [escaped]
      rw [List.flatMap_cons, List.length_append, List.length_cons]
      omega

/-- A written string is read back, from behind its first quotation mark. -/
theorem readString_written (text : String) (rest : List Char) :
    readString (text.toList.flatMap escaped ++ '"' :: rest) = some (text, rest) := by
  have enough : text.toList.length <
      (text.toList.flatMap escaped ++ '"' :: rest).length + 1 := by
    have longer := length_le_flatMap_escaped text.toList
    rw [List.length_append]
    omega
  rw [readString, readStringTail_flatMap text.toList [] enough, List.reverse_nil, List.nil_append,
    String.ofList_toList]

/-! ## Integers -/

/-- The text closes a value or goes on behind it; in particular it does not go on with digits. -/
def EndsValue (text : List Char) : Prop :=
  ∀ c ∈ text.head?, c ∈ [',', ']', '\x7d']

theorem EndsValue.not_isDigit {c : Char} {rest : List Char} (ends : EndsValue (c :: rest)) :
    c.isDigit = false := by
  have mark := ends c rfl
  simp only [List.mem_cons, List.not_mem_nil, or_false] at mark
  obtain rfl | rfl | rfl := mark <;> rfl

theorem le_ofDigitChars (digits : List Char) (start : Nat) :
    start ≤ Nat.ofDigitChars 10 digits start := by
  induction digits generalizing start with
  | nil => exact Nat.le_refl start
  | cons c digits ih =>
      rw [Nat.ofDigitChars_cons]
      exact Nat.le_trans (by omega) (ih _)

theorem takeDigits_append {digits : List Char} (areDigits : ∀ c ∈ digits, c.isDigit = true)
    {start : Nat} (fits : Nat.ofDigitChars 10 digits start < Word.unsignedLimit) (taken : Nat)
    {rest : List Char} (ends : EndsValue rest) :
    takeDigits start taken 0 (digits ++ rest) =
      ((Nat.ofDigitChars 10 digits start, taken + digits.length, 0), rest) := by
  induction digits generalizing start taken with
  | nil =>
      cases rest with
      | nil => rfl
      | cons c rest => simp [takeDigits, ends.not_isDigit]
  | cons c digits ih =>
      rw [Nat.ofDigitChars_cons] at fits ⊢
      have digit := areDigits c List.mem_cons_self
      have step : start * 10 + digitValue c = 10 * start + (c.toNat - '0'.toNat) := by
        rw [digitValue, Nat.mul_comm]
      have small : start * 10 + digitValue c < Word.unsignedLimit := by
        rw [step]
        exact Nat.lt_of_le_of_lt (le_ofDigitChars digits _) fits
      rw [List.cons_append, takeDigits, if_pos digit, if_pos ⟨rfl, small⟩, step,
        ih (fun c member => areDigits c (List.mem_cons_of_mem _ member)) fits, List.length_cons,
        Nat.add_assoc, Nat.add_comm 1]

theorem head?_toDigits_ne_zero {number : Nat} (positive : 0 < number) :
    (Nat.toDigits 10 number).head? ≠ some '0' := by
  induction number using Nat.strongRecOn with
  | ind number ih =>
      by_cases small : number < 10
      · have digits : ∀ digit < 10, 0 < digit → Nat.digitChar digit ≠ '0' := by decide
        rw [Nat.toDigits_of_lt_base small, List.head?_cons]
        exact fun equal => digits number small positive (Option.some.inj equal)
      · have front := ih (number / 10) (by omega) (by omega)
        rw [Nat.toDigits_of_base_le (by decide) (by omega)]
        cases digits : Nat.toDigits 10 (number / 10) with
        | nil => exact absurd digits Nat.toDigits_ne_nil
        | cons c rest => simpa [digits] using front

theorem readExponent_of_endsValue {rest : List Char} (ends : EndsValue rest) :
    readExponent rest = some (none, rest) := by
  cases rest with
  | nil => rfl
  | cons c rest =>
      have mark := ends c rfl
      simp only [List.mem_cons, List.not_mem_nil, or_false] at mark
      obtain rfl | rfl | rfl := mark <;> rfl

/-- The first digit of a number is not followed by a digit if it is zero. -/
theorem no_leading_zero {number : Nat} {first : Char} {others : List Char}
    (digits : Nat.toDigits 10 number = first :: others) {rest : List Char}
    (ends : EndsValue rest) :
    (first == '0' && (others ++ rest).head?.any Char.isDigit) = false := by
  by_cases zero : number = 0
  · subst zero
    cases digits
    cases rest with
    | nil => rfl
    | cons c rest => simpa using ends.not_isDigit
  · have notZero : first ≠ '0' := by
      have positive := head?_toDigits_ne_zero (Nat.pos_of_ne_zero zero)
      rw [digits, List.head?_cons] at positive
      exact fun equal => positive (congrArg some equal)
    rw [beq_eq_false_iff_ne.mpr notZero, Bool.false_and]

theorem readMagnitude_toDigits (negative : Bool) {number : Nat}
    (fits : number < Word.unsignedLimit) {rest : List Char} (ends : EndsValue rest) :
    readMagnitude negative (Nat.toDigits 10 number ++ rest) =
      some (some (integerOf negative number), rest) := by
  have areDigits : ∀ c ∈ Nat.toDigits 10 number, c.isDigit = true := fun c member =>
    Nat.isDigit_of_mem_toDigits (by decide) (by decide) member
  have taken := takeDigits_append areDigits
    (by rwa [Nat.ofDigitChars_ten_toDigits]) 0 ends
  rw [Nat.ofDigitChars_ten_toDigits] at taken
  cases digits : Nat.toDigits 10 number with
  | nil => exact absurd digits Nat.toDigits_ne_nil
  | cons first others =>
      have digit := areDigits first (digits ▸ List.mem_cons_self)
      rw [digits] at taken
      have point : ∀ fraction, rest ≠ '.' :: fraction := by
        rintro fraction rfl
        exact absurd (ends '.' rfl) (by decide)
      have leading := no_leading_zero digits ends
      rw [List.cons_append] at taken ⊢
      simp only [readMagnitude, List.head?_cons, List.drop_one, List.tail_cons, digit, leading,
        taken, readExponent_of_endsValue ends, guard, Option.bind_eq_bind, Option.bind_some,
        Bool.not_false, if_true]
      rfl

theorem toList_toString_ofNat (number : Nat) :
    (toString (number : Int)).toList = Nat.toDigits 10 number := by
  have written : toString (number : Int) = toString number := rfl
  rw [written, Nat.toString_eq_ofList_toDigits, String.toList_ofList]

theorem toList_toString_negSucc (number : Nat) :
    (toString (Int.negSucc number)).toList = '-' :: Nat.toDigits 10 (number + 1) := by
  have written : toString (Int.negSucc number) = "-" ++ toString (number + 1) := rfl
  have sign : "-".toList = ['-'] := rfl
  rw [written, String.toList_append, sign, Nat.toString_eq_ofList_toDigits, String.toList_ofList,
    List.singleton_append]

/-- A written integer is read back, given that it is a word. -/
theorem readNumber_toString {number : Int} (holds : Word.holds number = true) {rest : List Char}
    (ends : EndsValue rest) :
    readNumber ((toString number).toList ++ rest) = some (some (.integer number), rest) := by
  obtain ⟨lower, upper⟩ := Bool.and_eq_true_iff.mp holds
  have lower := of_decide_eq_true lower
  have upper := of_decide_eq_true upper
  have limits : Word.signedLimit < Word.unsignedLimit := by decide
  cases number with
  | ofNat value =>
      have fits : value < Word.unsignedLimit := Int.ofNat_lt.mp upper
      have read := readMagnitude_toDigits false fits ends
      rw [Int.ofNat_eq_natCast, toList_toString_ofNat]
      cases digits : Nat.toDigits 10 value with
      | nil => exact absurd digits Nat.toDigits_ne_nil
      | cons first others =>
          have noSign : first ≠ '-' := by
            have digit := Nat.isDigit_of_mem_toDigits (by decide) (by decide)
              (digits ▸ List.mem_cons_self : first ∈ Nat.toDigits 10 value)
            rintro rfl
            cases digit
          rw [digits] at read
          simpa [readNumber, noSign, integerOf] using read
  | negSucc value =>
      have fits : value + 1 ≤ Word.signedLimit := by omega
      have positive : 0 < value + 1 ∧ value + 1 ≤ Word.signedLimit := ⟨by omega, fits⟩
      rw [toList_toString_negSucc, List.cons_append, readNumber,
        readMagnitude_toDigits true (by omega) ends, integerOf, if_pos rfl, if_pos positive]
      rfl

end Json

end SqlCompiler
