import Mathlib.Tactic.MkIffOfInductiveProp
import UnicodeIdentifier.Proofs.Classifier
import UnicodeIdentifier.Standard

/-!
# The standard classifier

The stored tables are canonical and stay within the code points, the stored masks repeat them, and
every interval of the starting table lies inside one of the continuing table.  These are facts about
the data and are found by computing.  With them the lookups answer exactly by the union of the stored
intervals, and whatever begins an identifier also continues one.
-/

namespace UnicodeIdentifier

variable {classifier : Classifier} {code : UInt32}

/-- What is checked of the data of a classifier. -/
@[mk_iff]
structure Classifier.Checked (classifier : Classifier) : Prop where
  start_canonical : classifier.start.Canonical
  continuing_canonical : classifier.continuing.Canonical
  start_hi_le : ∀ interval ∈ classifier.start.intervals, interval.hi ≤ maxCodePoint
  continuing_hi_le : ∀ interval ∈ classifier.continuing.intervals, interval.hi ≤ maxCodePoint
  startMask_contains : ∀ index < 128, classifier.startMask.contains (UInt32.ofNat index) = true ↔
    Covers classifier.start.narrow (UInt32.ofNat index) ∨
      UInt32.ofNat index = dollar ∨ UInt32.ofNat index = underscore
  continueMask_contains : ∀ index < 128,
    classifier.continueMask.contains (UInt32.ofNat index) = true ↔
      Covers classifier.continuing.narrow (UInt32.ofNat index) ∨ UInt32.ofNat index = dollar
  surrounded : surroundsAll classifier.continuing.intervals classifier.start.intervals = true
  underscore_continues : Covers classifier.continuing.narrow underscore

namespace IntervalTable

theorem canonical_iff {table : IntervalTable} : table.Canonical ↔
    ((∀ interval ∈ table.narrow, interval.hi ≤ narrowMax) ∧
      ∀ interval ∈ table.wide.toList, narrowMax < interval.lo) ∧
    UnicodeIdentifier.Canonical table.narrow ∧ UnicodeIdentifier.Canonical table.wide.toList := by
  constructor
  · rintro ⟨⟨narrow_le, lt_wide⟩, narrow, wide⟩
    exact ⟨⟨narrow_le, lt_wide⟩, narrow, wide⟩
  · rintro ⟨⟨narrow_le, lt_wide⟩, narrow, wide⟩
    exact ⟨⟨narrow_le, lt_wide⟩, narrow, wide⟩

instance (table : IntervalTable) : Decidable table.Canonical :=
  decidable_of_iff _ canonical_iff.symm

end IntervalTable

namespace Classifier

instance (classifier : Classifier) : Decidable classifier.Checked :=
  decidable_of_iff _ (checked_iff classifier).symm

theorem Checked.coherent (checked : classifier.Checked) : classifier.Coherent where
  start_wellFormed := checked.start_canonical.wellFormed
  continuing_wellFormed := checked.continuing_canonical.wellFormed
  startMask_contains code small := by
    have agrees := checked.startMask_contains code.toNat (AsciiMask.toNat_lt_of_lt_limit small)
    rw [UInt32.ofNat_toNat] at agrees
    rw [agrees, checked.start_canonical.covers_intervals_of_le (AsciiMask.le_narrowMax small)]
  continueMask_contains code small := by
    have agrees := checked.continueMask_contains code.toNat (AsciiMask.toNat_lt_of_lt_limit small)
    rw [UInt32.ofNat_toNat] at agrees
    rw [agrees, checked.continuing_canonical.covers_intervals_of_le (AsciiMask.le_narrowMax small)]

/-- Checked data answers by the union of its starting intervals, on every word. -/
theorem Checked.isStart_iff_covers (checked : classifier.Checked) :
    classifier.isStart (.uint32 code) = true ↔
      code = dollar ∨ code = underscore ∨ Covers classifier.start.intervals code := by
  rw [isStart_uint32, checked.coherent.startsAt_eq_true_iff, or_comm, or_assoc]
  refine and_iff_right_of_imp ?_
  rintro (rfl | rfl | covered)
  · decide
  · decide
  · exact le_of_covers checked.start_hi_le covered

theorem Checked.isContinue_iff_covers (checked : classifier.Checked) :
    classifier.isContinue (.uint32 code) = true ↔
      code = dollar ∨ code = zeroWidthNonJoiner ∨ code = zeroWidthJoiner ∨
        Covers classifier.continuing.intervals code := by
  rw [isContinue_uint32, checked.coherent.continuesAt_eq_true_iff, or_comm, or_assoc, or_assoc]
  refine and_iff_right_of_imp ?_
  rintro (rfl | rfl | rfl | covered)
  · decide
  · decide
  · decide
  · exact le_of_covers checked.continuing_hi_le covered

/-- What begins an identifier continues one: the intervals are included, `$` is added on both sides,
and `_` lies in a continuing interval. -/
theorem Checked.continuesAt_of_startsAt (checked : classifier.Checked)
    (starts : classifier.startsAt code = true) : classifier.continuesAt code = true := by
  rw [checked.coherent.continuesAt_eq_true_iff]
  rcases checked.coherent.startsAt_eq_true_iff.mp starts with covered | rfl | rfl
  · exact Or.inl (covers_of_surroundsAll checked.surrounded covered)
  · exact Or.inr (Or.inl rfl)
  · exact Or.inl (IntervalTable.covers_intervals.mpr (Or.inl checked.underscore_continues))

end Classifier

theorem standard_checked : standard.Checked := by
  decide +kernel

/-- What begins an identifier is the union of the stored starting intervals with `$` and `_`, and
what continues one is the union of the stored continuing intervals with `$` and the joiners.  No
bound is put on the word. -/
theorem isStart_isContinue_iff_covers (code : UInt32) :
    (isStart code = true ↔ code = 0x24 ∨ code = 0x5F ∨ Covers Property.idStart.intervals code) ∧
      (isContinue code = true ↔ code = 0x24 ∨ code = 0x200C ∨ code = 0x200D ∨
        Covers Property.idContinue.intervals code) :=
  ⟨standard_checked.isStart_iff_covers, standard_checked.isContinue_iff_covers⟩

/-- A value of any type that begins an identifier also continues one. -/
theorem isContinue_of_isStart (value : CodeValue) (starts : isStart value = true) :
    isContinue value = true :=
  Classifier.isContinue_of_monotone (fun _ => standard_checked.continuesAt_of_startsAt) starts

/-- The character that only the starting mask is given and only the continuing table holds. -/
theorem isContinue_underscore : isStart '_' = true ∧ isContinue '_' = true :=
  have starts : isStart '_' = true := by decide
  ⟨starts, isContinue_of_isStart '_' starts⟩

end UnicodeIdentifier
