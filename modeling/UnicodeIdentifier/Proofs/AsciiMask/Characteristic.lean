import UnicodeIdentifier.Proofs.AsciiMask

/-!
# Characteristic masks

The mask of a set is the characteristic word of the ASCII part of the set: its bits are the ASCII
members, and it shows nothing else of the set.  Two masks are therefore compared by their members,
and the union of sets becomes the union of words.
-/

namespace UnicodeIdentifier

namespace CodeSet

/-- The members of either set. -/
def union (left right : CodeSet) : CodeSet := ofList (left.codes ++ right.codes)

instance : Union CodeSet := ⟨union⟩

@[simp]
theorem mem_union {left right : CodeSet} {code : UInt32} :
    code ∈ left ∪ right ↔ code ∈ left ∨ code ∈ right := by
  change code ∈ ofList (left.codes ++ right.codes) ↔ _
  simp

end CodeSet

namespace AsciiMask

variable {set other : CodeSet}

theorem getLsbD_ofSet {index : Nat} (inside : index < 128) :
    (ofSet set).getLsbD index = true ↔ ∃ code ∈ set, code.toNat = index := by
  obtain ⟨code, ascii, rfl⟩ := exists_code_of_lt inside
  rw [← contains_eq_getLsbD, contains_ofSet ascii]
  constructor
  · intro member
    exact ⟨code, member, rfl⟩
  · rintro ⟨listed, member, same⟩
    rw [← UInt32.toNat_inj.mp same]
    exact member

example : ofSet (CodeSet.ofList [0x30, 0x7F, 0x80, 0xAA]) = bit 0x30 ||| bit 0x7F := by
  cbv

theorem ofSet_eq_ofSet_iff :
    ofSet set = ofSet other ↔ ∀ code < limit, code ∈ set ↔ code ∈ other := by
  constructor
  · intro sameMask code ascii
    rw [← contains_ofSet ascii, sameMask, contains_ofSet ascii]
  · intro sameMembers
    apply eq_of_contains_iff
    intro code ascii
    rw [contains_ofSet ascii, contains_ofSet ascii]
    exact sameMembers code ascii

theorem ofSet_union (set other : CodeSet) : ofSet (set ∪ other) = ofSet set ||| ofSet other := by
  apply eq_of_contains_iff
  intro code ascii
  rw [contains_or, Bool.or_eq_true, contains_ofSet ascii, contains_ofSet ascii,
    contains_ofSet ascii, CodeSet.mem_union]

/-- The mask of a set is the characteristic word of its ASCII part.  A bit is set exactly if the set
has the member of this number; sets have the same mask exactly if they have the same ASCII members,
whatever else is in them; the mask of a union has the bits of both masks. -/
theorem ofSet_characteristic (set other : CodeSet) :
    (∀ index < 128, (ofSet set).getLsbD index = true ↔ ∃ code ∈ set, code.toNat = index) ∧
    (ofSet set = ofSet other ↔ ∀ code : UInt32, code < 0x80 → (code ∈ set ↔ code ∈ other)) ∧
    ofSet (set ∪ other) = ofSet set ||| ofSet other :=
  ⟨fun _ inside => getLsbD_ofSet inside, ofSet_eq_ofSet_iff, ofSet_union set other⟩

/-- Two ASCII members, and two members beyond them that exceed `0` and `0x2A` by the width of a mask. -/
def crossing : CodeSet := CodeSet.ofList [0x30, 0x7F, 0x80, 0xAA]

/-- The same ASCII members and the greatest value. -/
def topped : CodeSet := CodeSet.ofList [0xFFFFFFFF, 0x7F, 0x30]

/-- The last ASCII character has its bit.  The members beyond it set none, not even at their remainder
by the width.  Two sets that differ only there have one mask, and so has their union. -/
theorem ofSet_characteristic_crossing :
    (0x7F < 128 ∧ (ofSet crossing).getLsbD 0x7F = true) ∧
    (0x2A < 128 ∧ (ofSet crossing).getLsbD 0x2A = false) ∧
    ofSet crossing = ofSet topped ∧ ofSet (crossing ∪ topped) = ofSet crossing := by
  obtain ⟨bits, same_iff, union_eq⟩ := ofSet_characteristic crossing topped
  have last : (ofSet crossing).getLsbD 0x7F = true :=
    (bits 0x7F (by decide)).mpr ⟨0x7F, CodeSet.mem_ofList.mpr (by decide), rfl⟩
  have wrapped : (ofSet crossing).getLsbD 0x2A = false := by
    rw [Bool.eq_false_iff, Ne, bits 0x2A (by decide)]
    rintro ⟨code, member, same⟩
    simp only [crossing, CodeSet.mem_ofList, List.mem_cons, List.not_mem_nil, or_false] at member
    rcases member with rfl | rfl | rfl | rfl <;> exact absurd same (by decide)
  have sameMask : ofSet crossing = ofSet topped := by
    apply same_iff.mpr
    intro code ascii
    simp only [crossing, topped, CodeSet.mem_ofList, List.mem_cons, List.not_mem_nil, or_false,
      ← UInt32.toNat_inj, UInt32.lt_iff_toNat_lt, UInt32.reduceToNat] at ascii ⊢
    omega
  refine ⟨⟨by decide, last⟩, ⟨by decide, wrapped⟩, sameMask, ?_⟩
  rw [union_eq, ← sameMask, BitVec.or_self]

end AsciiMask
end UnicodeIdentifier
