import UnicodeIdentifier.Numeral

/-!
# Numerals that were written can be read

The digits of a number come from repeated division, most significant first.  Read from the left they
give, step by step, the quotients that the divisions went through, so no step goes past the number
itself and a bound above the number is never met.  Leading zeros change nothing.
-/

namespace UnicodeIdentifier
namespace Numeral

variable {base bound width value digit : Nat} {char : Char} {written chars : List Char}

/-- The digits that are written. -/
def digitChars : List Char := (List.range 16).map digitChar

theorem digitChar_mem_digitChars (small : digit < 16) : digitChar digit ∈ digitChars :=
  List.mem_map_of_mem (List.mem_range.mpr small)

theorem digitValue?_sixteen_digitChar : ∀ digit < 16, digitValue? 16 (digitChar digit) = some digit := by
  decide

theorem digitValue?_eq_filter (atMost : base ≤ 16) (char : Char) :
    digitValue? base char = (digitValue? 16 char).filter (· < base) := by
  simp only [digitValue?, Option.filter_filter]
  congr 1
  funext value
  rw [Bool.eq_iff_iff]
  simp only [Bool.and_eq_true, decide_eq_true_eq]
  omega

theorem digitValue?_digitChar (atMost : base ≤ 16) (small : digit < base) :
    digitValue? base (digitChar digit) = some digit := by
  rw [digitValue?_eq_filter atMost, digitValue?_sixteen_digitChar digit (by omega)]
  exact Option.filter_some_pos (decide_eq_true small)

theorem mem_digitsOnto (atLeast : 2 ≤ base) (atMost : base ≤ 16)
    (member : char ∈ digitsOnto base written value) : char ∈ digitChars ∨ char ∈ written := by
  fun_induction digitsOnto base written value with
  | case1 written value last =>
    rcases List.mem_cons.mp member with rfl | already
    · exact Or.inl (digitChar_mem_digitChars (by omega))
    · exact Or.inr already
  | case2 written value more ih =>
    rcases ih member with isDigit | later
    · exact Or.inl isDigit
    · rcases List.mem_cons.mp later with rfl | already
      · have small : value % base < base := Nat.mod_lt value (by omega)
        exact Or.inl (digitChar_mem_digitChars (by omega))
      · exact Or.inr already

theorem digitsOnto_ne_nil : digitsOnto base written value ≠ [] := by
  fun_induction digitsOnto base written value with
  | case1 written value last => exact List.cons_ne_nil _ _
  | case2 written value more ih => exact ih

/-- Reading the digits of a number that stand in front of others brings the value to the number. -/
theorem readDigits?_digitsOnto (atLeast : 2 ≤ base) (atMost : base ≤ 16) (bounded : value < bound) :
    readDigits? base bound 0 (digitsOnto base written value) =
      readDigits? base bound value written := by
  fun_induction digitsOnto base written value with
  | case1 written value last =>
    have small : value < base := by omega
    simp [readDigits?, digitValue?_digitChar atMost small, bounded]
  | case2 written value more ih =>
    have quotient_le : value / base ≤ value := Nat.div_le_self value base
    have small : value % base < base := Nat.mod_lt value (by omega)
    have restored : value / base * base + value % base = value := Nat.div_add_mod' value base
    rw [ih (by omega), readDigits?, digitValue?_digitChar atMost small]
    simp [restored, bounded]

theorem readDigits?_replicate_zero (positive : 0 < base) (atMost : base ≤ 16) (bounded : 0 < bound)
    (count : Nat) : readDigits? base bound 0 (List.replicate count '0' ++ chars) =
      readDigits? base bound 0 chars := by
  induction count with
  | zero => rfl
  | succ count ih =>
    have isZero : digitValue? base '0' = some 0 := @digitValue?_digitChar base 0 atMost positive
    rw [List.replicate_succ, List.cons_append, readDigits?, isZero]
    simpa [bounded] using ih

theorem mem_digitChars_of_mem_writeChars (atLeast : 2 ≤ base) (atMost : base ≤ 16)
    (member : char ∈ writeChars base width value) : char ∈ digitChars := by
  rcases List.mem_append.mp member with padding | shown
  · rw [List.eq_of_mem_replicate padding]
    decide
  · exact (mem_digitsOnto atLeast atMost shown).resolve_right List.not_mem_nil

theorem writeChars_ne_nil : writeChars base width value ≠ [] :=
  List.append_ne_nil_of_right_ne_nil _ digitsOnto_ne_nil

theorem dropPlus_eq_self (noPlus : '+' ∉ chars) : dropPlus chars = chars := by
  unfold dropPlus
  split
  · exact absurd List.mem_cons_self noPlus
  · rfl

/-- A number that was written is read back under any bound above it. -/
theorem read?_writeChars (atLeast : 2 ≤ base) (atMost : base ≤ 16) (bounded : value < bound) :
    read? base bound (writeChars base width value) = some value := by
  have noPlus : '+' ∉ writeChars base width value := fun member =>
    absurd (mem_digitChars_of_mem_writeChars atLeast atMost member) (by decide)
  have isRead : readDigits? base bound 0 (writeChars base width value) = some value := by
    rw [writeChars, readDigits?_replicate_zero (by omega) atMost (by omega), digits,
      readDigits?_digitsOnto atLeast atMost bounded, readDigits?]
  rw [read?, dropPlus_eq_self noPlus]
  split
  · rename_i isEmpty
    exact absurd isEmpty writeChars_ne_nil
  · exact isRead

theorem toList_hex4 (code : UInt32) : (hex4 code).toList = writeChars 16 4 code.toNat :=
  String.toList_ofList

theorem toList_decimal (value : Nat) : (decimal value).toList = writeChars 10 1 value :=
  String.toList_ofList

end Numeral
end UnicodeIdentifier
