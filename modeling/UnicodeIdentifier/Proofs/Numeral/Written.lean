import UnicodeIdentifier.Proofs.Numeral.Grammar
import UnicodeIdentifier.Proofs.Text.Line

/-!
# Numbers as they are written

A number is written as a numeral in capital digits that has a least width and no zeros in front beyond
it.  Since a written number can be read, no two numbers are written alike, and a character that is no
digit tells where the number ends.
-/

namespace UnicodeIdentifier
namespace Numeral

variable {base width value other : Nat} {written rest after : List Char} {separator : Char}

/-- The digits are capital ones of the value, at least so many, and with zeros in front only to reach
this width. -/
structure IsWritten (base width : Nat) (digits : List Char) (value : Nat) : Prop where
  capital : ∀ digit ∈ digits, digit ∈ capitalDigits
  isNumeral : IsNumeral base digits value
  width_le : width ≤ digits.length
  shortest : width < digits.length → digits.head? ≠ some '0'

theorem digitChars_eq_capitalDigits : digitChars = capitalDigits := by
  decide

theorem mem_capitalDigits_of_mem_writeChars {char : Char} (atLeast : 2 ≤ base) (atMost : base ≤ 16)
    (member : char ∈ writeChars base width value) : char ∈ capitalDigits :=
  digitChars_eq_capitalDigits ▸ mem_digitChars_of_mem_writeChars atLeast atMost member

theorem eq_zero_of_digitChar : ∀ digit < 16, digitChar digit = '0' → digit = 0 := by
  decide

theorem eq_zero_of_head?_digitsOnto (atLeast : 2 ≤ base) (atMost : base ≤ 16)
    (isZero : (digitsOnto base written value).head? = some '0') : value = 0 := by
  fun_induction digitsOnto base written value with
  | case1 written value last =>
    exact eq_zero_of_digitChar value (by omega) (Option.some.inj isZero)
  | case2 written value more ih =>
    have noQuotient : value / base = 0 := ih isZero
    rw [Nat.div_eq_zero_iff] at noQuotient
    omega

/-- What is written for a number has the shape of a written number. -/
theorem isWritten_writeChars (atLeast : 2 ≤ base) (atMost : base ≤ 16) (positive : 0 < width) :
    IsWritten base width (writeChars base width value) value where
  capital _ member := mem_capitalDigits_of_mem_writeChars atLeast atMost member
  isNumeral := isNumeral_writeChars atLeast atMost
  width_le := by
    rw [writeChars, List.length_append, List.length_replicate]
    omega
  shortest := by
    intro longer isZero
    have noPadding : width - (digits base value).length = 0 := by
      rw [writeChars, List.length_append, List.length_replicate] at longer
      omega
    rw [writeChars, noPadding, List.replicate_zero, List.nil_append] at longer isZero
    obtain rfl := eq_zero_of_head?_digitsOnto atLeast atMost isZero
    rw [digits, digitsOnto, dif_pos (Or.inr (by omega)), List.length_singleton] at longer
    omega

theorem isWritten_hex4 (code : UInt32) : IsWritten 16 4 (hex4 code).toList code.toNat := by
  rw [toList_hex4]
  exact isWritten_writeChars (by decide) (by decide) (by decide)

theorem IsWritten.noLineEnd {digits : List Char} (isWritten : IsWritten base width digits value) :
    Text.NoLineEnd digits := by
  have capitals : Text.NoLineEnd capitalDigits := by decide
  exact fun digit member => capitals digit (isWritten.capital digit member)

theorem length_digitsOnto_le {bound : Nat} (positive : 0 < bound) (small : value < base ^ bound) :
    (digitsOnto base written value).length ≤ bound + written.length := by
  fun_induction digitsOnto base written value generalizing bound with
  | case1 written value last =>
    rw [List.length_cons]
    omega
  | case2 written value more ih =>
    obtain ⟨others, rfl⟩ := Nat.exists_eq_succ_of_ne_zero (Nat.ne_of_gt positive)
    have fewer : value / base < base ^ others :=
      Nat.div_lt_of_lt_mul (by rwa [Nat.pow_succ, Nat.mul_comm] at small)
    have others_pos : 0 < others := by
      rcases Nat.eq_zero_or_pos others with rfl | others_pos
      · simp at small
        omega
      · exact others_pos
    have shorter := ih others_pos fewer
    rw [List.length_cons] at shorter
    omega

theorem length_writeChars (positive : 0 < width) (small : value < base ^ width) :
    (writeChars base width value).length = width := by
  have fits : (digits base value).length ≤ width := length_digitsOnto_le positive small
  rw [writeChars, List.length_append, List.length_replicate]
  omega

theorem eq_of_writeChars_eq (atLeast : 2 ≤ base) (atMost : base ≤ 16)
    (same : writeChars base width value = writeChars base width other) : value = other := by
  have reads {number : Nat} (most : number ≤ max value other) :
      read? base (max value other + 1) (writeChars base width number) = some number :=
    read?_writeChars atLeast atMost (Nat.lt_succ_of_le most)
  have valueRead := reads (Nat.le_max_left value other)
  rw [same, reads (Nat.le_max_right value other)] at valueRead
  exact (Option.some.inj valueRead).symm

theorem hex4_injective : Function.Injective hex4 := by
  intro code other same
  have sameChars := congrArg String.toList same
  rw [toList_hex4, toList_hex4] at sameChars
  exact UInt32.toNat_inj.mp (eq_of_writeChars_eq (by decide) (by decide) sameChars)

/-- A written number and the text after it are found again if a character that is no digit stands
between them. -/
theorem writeChars_append_cons_inj (atLeast : 2 ≤ base) (atMost : base ≤ 16)
    (noDigit : separator ∉ capitalDigits)
    (same : writeChars base width value ++ separator :: rest =
      writeChars base width other ++ separator :: after) : value = other ∧ rest = after := by
  have absent (number : Nat) : separator ∉ writeChars base width number :=
    mt (mem_capitalDigits_of_mem_writeChars atLeast atMost) noDigit
  obtain ⟨sameDigits, sameRest⟩ := Text.append_cons_inj (absent value) (absent other) same
  exact ⟨eq_of_writeChars_eq atLeast atMost sameDigits, sameRest⟩

theorem hex4_append_cons_inj {code other : UInt32} (noDigit : separator ∉ capitalDigits)
    (same : (hex4 code).toList ++ separator :: rest = (hex4 other).toList ++ separator :: after) :
    code = other ∧ rest = after := by
  rw [toList_hex4, toList_hex4] at same
  exact (writeChars_append_cons_inj (by decide) (by decide) noDigit same).imp_left
    UInt32.toNat_inj.mp

theorem decimal_append_cons_inj {byte other : UInt8} (noDigit : separator ∉ capitalDigits)
    (same : (decimal byte.toNat).toList ++ separator :: rest =
      (decimal other.toNat).toList ++ separator :: after) : byte = other ∧ rest = after := by
  rw [toList_decimal, toList_decimal] at same
  exact (writeChars_append_cons_inj (by decide) (by decide) noDigit same).imp_left
    UInt8.toNat_inj.mp

/-- Zeros in front of what was written for a number amount to a greater width. -/
theorem replicate_append_writeChars (base width value count : Nat) :
    List.replicate count '0' ++ writeChars base width value =
      writeChars base (count + max width (digits base value).length) value := by
  have zeros : count + (width - (digits base value).length) =
      count + max width (digits base value).length - (digits base value).length := by
    omega
  rw [writeChars, writeChars, ← List.append_assoc, List.replicate_append_replicate, zeros]

theorem isNumeral_replicate_append_hex4 (count : Nat) (code : UInt32) :
    IsNumeral 16 (List.replicate count '0' ++ (hex4 code).toList) code.toNat := by
  rw [toList_hex4, replicate_append_writeChars]
  exact isNumeral_writeChars (by decide) (by decide)

/-- A word is read from the hexadecimal numerals of its value and from nothing else, and nothing is
read exactly if there is no number below `2 ^ 32` of which the characters are a numeral.  The name of a
word is one of its numerals, with any number of zeros in front. -/
theorem readHex?_reads_numerals :
    (∀ chars code, readHex? chars = some code ↔ IsNumeral 16 chars code.toNat) ∧
    (∀ chars, readHex? chars = none ↔ ¬ ∃ value < 2 ^ 32, IsNumeral 16 chars value) ∧
    ∀ code count, readHex? (List.replicate count '0' ++ (hex4 code).toList) = some code := by
  refine ⟨fun chars code => readHex?_eq_some_iff, fun chars => ?_, fun code count => ?_⟩
  · rw [readHex?, Option.map_eq_none_iff, Option.eq_none_iff_forall_ne_some, not_exists]
    refine forall_congr' fun value => not_congr ?_
    rw [read?_eq_some_iff (by decide) (by decide) (by decide), and_comm]
    rfl
  · exact readHex?_eq_some_iff.mpr (isNumeral_replicate_append_hex4 count code)

end Numeral
end UnicodeIdentifier
