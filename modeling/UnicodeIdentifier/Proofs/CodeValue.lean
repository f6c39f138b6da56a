import UnicodeIdentifier.CodeValue

/-!
# Which values are code points

A 64-bit word becomes a code point exactly when it is one, and narrowing it to 32 bits then loses
nothing.  Every other type is widened to 64 bits first, which keeps the integer; so of every type
exactly the values from `0` to `0x10FFFF` become code points.
-/

namespace UnicodeIdentifier
namespace CodeValue

variable {code : UInt32} {word : UInt64} {value : CodeValue}

theorem le_maxCodePoint_iff : code ≤ maxCodePoint ↔ code.toNat ≤ 0x10FFFF :=
  UInt32.le_iff_toNat_le

theorem le_maxCodePoint_toUInt64_iff : word ≤ maxCodePoint.toUInt64 ↔ word.toNat ≤ 0x10FFFF :=
  UInt64.le_iff_toNat_le

theorem ofUnsigned?_eq_some_iff :
    ofUnsigned? word = some code ↔ word.toNat = code.toNat ∧ code ≤ maxCodePoint := by
  rw [ofUnsigned?, le_maxCodePoint_iff]
  split
  · rename_i small
    rw [le_maxCodePoint_toUInt64_iff] at small
    rw [Option.some.injEq, ← UInt32.toNat_inj, UInt64.toNat_toUInt32, Nat.mod_eq_of_lt (by omega)]
    omega
  · rename_i large
    rw [le_maxCodePoint_toUInt64_iff] at large
    simp only [reduceCtorEq, false_iff]
    omega

theorem toInt_eq_toNat_toUInt64 {word : Int64} (nonneg : 0 ≤ word) :
    word.toInt = word.toUInt64.toNat := by
  have nonnegInt : 0 ≤ word.toInt := Int64.le_iff_toInt_le.mp nonneg
  rw [Int64.toNat_toUInt64_of_le nonneg]
  exact (Int.toNat_of_nonneg nonnegInt).symm

theorem le_maxCodePoint_toInt64_iff {word : Int64} :
    word ≤ maxCodePoint.toUInt64.toInt64 ↔ word.toInt ≤ 0x10FFFF :=
  Int64.le_iff_toInt_le

theorem ofSigned?_eq_some_iff {word : Int64} :
    ofSigned? word = some code ↔ word.toInt = code.toNat ∧ code ≤ maxCodePoint := by
  rw [ofSigned?]
  split
  · rename_i within
    obtain ⟨nonneg, small⟩ := within
    rw [le_maxCodePoint_toInt64_iff] at small
    have sameInt := toInt_eq_toNat_toUInt64 nonneg
    have passes : ofUnsigned? word.toUInt64 = some word.toUInt64.toUInt32 :=
      if_pos (le_maxCodePoint_toUInt64_iff.mpr (by omega))
    rw [← passes, ofUnsigned?_eq_some_iff, sameInt, Int.natCast_inj]
  · rename_i outside
    rw [le_maxCodePoint_toInt64_iff, Int64.le_iff_toInt_le, Int64.toInt_zero] at outside
    rw [le_maxCodePoint_iff]
    simp only [reduceCtorEq, false_iff]
    omega

theorem ofUnsigned?_iff_of_widened {number : Nat} (widened : word.toNat = number) :
    ofUnsigned? word = some code ↔ (number : Int) = code.toNat ∧ code ≤ maxCodePoint := by
  rw [ofUnsigned?_eq_some_iff, widened, Int.natCast_inj]

theorem ofSigned?_iff_of_widened {word : Int64} {number : Int} (widened : word.toInt = number) :
    ofSigned? word = some code ↔ number = code.toNat ∧ code ≤ maxCodePoint := by
  rw [ofSigned?_eq_some_iff, widened]

theorem val_le_maxCodePoint (char : Char) : char.val ≤ maxCodePoint := by
  rw [le_maxCodePoint_iff]
  have valid : char.val.toNat.isValidChar := char.valid
  rw [Nat.isValidChar] at valid
  omega

/-- A value becomes the code point that it denotes, if it denotes one. -/
theorem toCodePoint?_eq_some_iff :
    value.toCodePoint? = some code ↔ value.toInt = code.toNat ∧ code ≤ maxCodePoint := by
  cases value with
  | uint8 value => exact ofUnsigned?_iff_of_widened (UInt8.toNat_toUInt64 value)
  | uint16 value => exact ofUnsigned?_iff_of_widened (UInt16.toNat_toUInt64 value)
  | uint32 value => exact ofUnsigned?_iff_of_widened (UInt32.toNat_toUInt64 value)
  | uint64 value => exact ofUnsigned?_iff_of_widened rfl
  | usize value => exact ofUnsigned?_iff_of_widened (USize.toNat_toUInt64 value)
  | int8 value => exact ofSigned?_iff_of_widened (Int8.toInt_toInt64 value)
  | int16 value => exact ofSigned?_iff_of_widened (Int16.toInt_toInt64 value)
  | int32 value => exact ofSigned?_iff_of_widened (Int32.toInt_toInt64 value)
  | int64 value => exact ofSigned?_iff_of_widened rfl
  | isize value => exact ofSigned?_iff_of_widened (ISize.toInt_toInt64 value)
  | char value =>
    rw [toCodePoint?, toInt, Option.some.injEq, Int.natCast_inj, ← Char.toNat_val, UInt32.toNat_inj]
    exact (and_iff_left_of_imp fun same => same ▸ val_le_maxCodePoint value).symm

theorem exists_toCodePoint? (nonneg : 0 ≤ value.toInt) (small : value.toInt ≤ 0x10FFFF) :
    ∃ code, value.toCodePoint? = some code := by
  have fits : value.toInt.toNat < UInt32.size :=
    Nat.lt_of_le_of_lt (Int.toNat_le.mpr small) (by decide)
  have isCode : (UInt32.ofNat value.toInt.toNat).toNat = value.toInt.toNat :=
    UInt32.toNat_ofNat_of_lt' fits
  refine ⟨UInt32.ofNat value.toInt.toNat, ?_⟩
  rw [toCodePoint?_eq_some_iff, le_maxCodePoint_iff, isCode]
  omega

theorem toCodePoint?_eq_none_iff :
    value.toCodePoint? = none ↔ value.toInt < 0 ∨ 0x10FFFF < value.toInt := by
  constructor
  · intro isNone
    refine Decidable.byContradiction fun within => ?_
    obtain ⟨code, isSome⟩ := @exists_toCodePoint? value (by omega) (by omega)
    rw [isNone] at isSome
    cases isSome
  · intro outside
    refine Option.eq_none_iff_forall_ne_some.mpr fun code found => ?_
    rw [toCodePoint?_eq_some_iff, le_maxCodePoint_iff] at found
    omega

theorem toCodePoint?_uint32 :
    (uint32 code).toCodePoint? = if code ≤ maxCodePoint then some code else none := by
  split
  · rename_i small
    exact toCodePoint?_eq_some_iff.mpr ⟨rfl, small⟩
  · rename_i large
    rw [toCodePoint?_eq_none_iff, toInt]
    rw [le_maxCodePoint_iff] at large
    omega

end CodeValue
end UnicodeIdentifier
