import UnicodeIdentifier.AsciiMask
import UnicodeIdentifier.IntervalTable

/-!
# The bits of a mask

Asking a mask about a character reads one bit.  The mask of a set therefore answers for the ASCII
members of the set, and a union of masks answers for either part.
-/

namespace UnicodeIdentifier
namespace AsciiMask

variable {left right mask : AsciiMask} {code other : UInt32} {codes : List UInt32}

theorem bit_eq_twoPow (code : UInt32) : bit code = BitVec.twoPow 128 code.toNat :=
  (BitVec.twoPow_eq 128 code.toNat).symm

theorem toNat_lt_of_lt_limit (small : code < limit) : code.toNat < 128 := by
  rw [UInt32.lt_iff_toNat_lt] at small
  exact small

theorem le_narrowMax (small : code < limit) : code ≤ narrowMax :=
  UInt32.le_trans (UInt32.le_of_lt small) (by decide)

theorem contains_eq_getLsbD (mask : AsciiMask) (code : UInt32) :
    mask.contains code = mask.getLsbD code.toNat := by
  rw [contains, bit_eq_twoPow, BitVec.and_twoPow]
  split
  · rename_i isSet
    have inside : code.toNat < 128 := by
      apply Nat.lt_of_not_le
      intro outside
      rw [BitVec.getLsbD_of_ge mask code.toNat outside] at isSet
      exact absurd isSet Bool.false_ne_true
    have ne_zero : BitVec.twoPow 128 code.toNat ≠ 0#128 := by
      intro isZero
      have bits := congrArg (BitVec.getLsbD · code.toNat) isZero
      simp [inside] at bits
    rw [isSet, bne_iff_ne]
    exact ne_zero
  · rename_i isClear
    rw [Bool.not_eq_true] at isClear
    rw [isClear, bne_self_eq_false]

@[simp]
theorem contains_zero : contains 0#128 code = false := by
  rw [contains_eq_getLsbD, BitVec.getLsbD_zero]

@[simp]
theorem contains_or : contains (left ||| right) code = (left.contains code || right.contains code) := by
  simp only [contains_eq_getLsbD, BitVec.getLsbD_or]

@[simp]
theorem contains_bit (small : code < limit) : (bit other).contains code = decide (code = other) := by
  have inside := toNat_lt_of_lt_limit small
  rw [contains_eq_getLsbD, bit_eq_twoPow, BitVec.getLsbD_twoPow, Bool.eq_iff_iff]
  simp only [Bool.and_eq_true, decide_eq_true_eq, ← UInt32.toNat_inj]
  omega

theorem contains_foldl_bit (small : code < limit) :
    contains (codes.foldl (fun mask code => mask ||| bit code) mask) code =
      (mask.contains code || decide (code ∈ codes)) := by
  induction codes generalizing mask with
  | nil => simp
  | cons first rest ih =>
    rw [List.foldl_cons, ih, contains_or, contains_bit small, Bool.or_assoc, Bool.eq_iff_iff]
    simp

theorem mem_takeWhile_lt_limit (ascending : codes.Pairwise (· < ·)) :
    code ∈ codes.takeWhile (· < limit) ↔ code ∈ codes ∧ code < limit := by
  induction codes with
  | nil => simp
  | cons first rest ih =>
    rw [List.takeWhile_cons]
    split
    · rename_i below
      rw [List.mem_cons, ih ascending.tail, List.mem_cons, or_and_right]
      refine or_congr_left ⟨fun same => ⟨same, same ▸ of_decide_eq_true below⟩, And.left⟩
    · rename_i above
      rw [decide_eq_true_eq, UInt32.not_lt] at above
      refine ⟨fun member => absurd member List.not_mem_nil, fun ⟨member, small⟩ => ?_⟩
      have first_le : first ≤ code := by
        rcases List.mem_cons.mp member with rfl | later
        · exact UInt32.le_refl code
        · exact UInt32.le_of_lt (List.rel_of_pairwise_cons ascending later)
      exact absurd (UInt32.lt_of_le_of_lt (UInt32.le_trans above first_le) small)
        (UInt32.lt_irrefl _)

/-- The mask of a set answers for the ASCII characters in it. -/
@[simp]
theorem contains_ofSet {set : CodeSet} (small : code < limit) :
    (ofSet set).contains code = true ↔ code ∈ set := by
  rw [ofSet, contains_foldl_bit small, contains_zero, Bool.false_or, decide_eq_true_eq,
    mem_takeWhile_lt_limit set.ascending, CodeSet.mem_codes]
  exact and_iff_left small

theorem exists_code_of_lt {index : Nat} (inside : index < 128) :
    ∃ code < limit, code.toNat = index := by
  have fits : index < UInt32.size := Nat.lt_trans inside (by decide)
  have isIndex : (UInt32.ofNat index).toNat = index := UInt32.toNat_ofNat_of_lt' fits
  refine ⟨UInt32.ofNat index, ?_, isIndex⟩
  rw [UInt32.lt_iff_toNat_lt, isIndex]
  exact inside

theorem eq_of_contains_iff
    (same : ∀ code < limit, left.contains code = true ↔ right.contains code = true) :
    left = right := by
  apply BitVec.eq_of_getLsbD_eq
  intro index inside
  obtain ⟨code, ascii, rfl⟩ := exists_code_of_lt inside
  have bits := same code ascii
  rw [contains_eq_getLsbD, contains_eq_getLsbD] at bits
  exact Bool.eq_iff_iff.mpr bits

end AsciiMask
end UnicodeIdentifier
