import UnicodeIdentifier.Classifier
import UnicodeIdentifier.Proofs.AsciiMask
import UnicodeIdentifier.Proofs.CodeSet.Runs
import UnicodeIdentifier.Proofs.CodeValue
import UnicodeIdentifier.Proofs.IntervalTable.Split

/-!
# Classifiers whose masks and tables agree

A classifier answers from a mask, from a scan or from a search.  It is coherent when its tables are
well formed and its masks say about ASCII what the tables say, with the additions of either
question.  Then all three ways of answering compute one set.  The classifier of two sets is
coherent.
-/

namespace UnicodeIdentifier
namespace Classifier

/-- The tables are well formed, and the masks repeat them below the limit with `$` and `_` added. -/
structure Coherent (classifier : Classifier) : Prop where
  start_wellFormed : classifier.start.WellFormed
  continuing_wellFormed : classifier.continuing.WellFormed
  startMask_contains : ∀ code < AsciiMask.limit, classifier.startMask.contains code = true ↔
    Covers classifier.start.intervals code ∨ code = dollar ∨ code = underscore
  continueMask_contains : ∀ code < AsciiMask.limit, classifier.continueMask.contains code = true ↔
    Covers classifier.continuing.intervals code ∨ code = dollar

variable {classifier : Classifier} {version : Version} {start continuing : CodeSet}
  {code : UInt32} {value : CodeValue}

theorem dollar_lt_limit : dollar < AsciiMask.limit := by decide

theorem underscore_lt_limit : underscore < AsciiMask.limit := by decide

theorem limit_le_zeroWidthNonJoiner : AsciiMask.limit ≤ zeroWidthNonJoiner := by decide

theorem limit_le_zeroWidthJoiner : AsciiMask.limit ≤ zeroWidthJoiner := by decide

/-- Mask, scan and search agree on what begins an identifier. -/
theorem Coherent.startsAt_eq_true_iff (coherent : classifier.Coherent) :
    classifier.startsAt code = true ↔
      Covers classifier.start.intervals code ∨ code = dollar ∨ code = underscore := by
  rw [startsAt]
  split
  · rename_i ascii
    exact coherent.startMask_contains code ascii
  · rename_i beyond
    rw [IntervalTable.contains_eq_true_iff coherent.start_wellFormed]
    refine (or_iff_left ?_).symm
    rintro (rfl | rfl)
    · exact beyond dollar_lt_limit
    · exact beyond underscore_lt_limit

/-- Mask, joiners, scan and search agree on what continues an identifier. -/
theorem Coherent.continuesAt_eq_true_iff (coherent : classifier.Coherent) :
    classifier.continuesAt code = true ↔
      Covers classifier.continuing.intervals code ∨
        code = dollar ∨ code = zeroWidthNonJoiner ∨ code = zeroWidthJoiner := by
  rw [continuesAt]
  split
  · rename_i ascii
    rw [coherent.continueMask_contains code ascii, ← or_assoc]
    refine (or_iff_left ?_).symm
    rintro (rfl | rfl)
    · exact UInt32.not_lt.mpr limit_le_zeroWidthNonJoiner ascii
    · exact UInt32.not_lt.mpr limit_le_zeroWidthJoiner ascii
  · rename_i beyond
    split
    · rename_i joiner
      exact iff_of_true rfl (Or.inr (Or.inr joiner))
    · rename_i noJoiner
      rw [IntervalTable.contains_eq_true_iff coherent.continuing_wellFormed]
      refine (or_iff_left ?_).symm
      rintro (rfl | joiner)
      · exact beyond dollar_lt_limit
      · exact noJoiner joiner

theorem isStart_eq_true_iff : classifier.isStart value = true ↔
    ∃ code, value.toCodePoint? = some code ∧ classifier.startsAt code = true := by
  rw [isStart]
  cases value.toCodePoint? with
  | none => simp
  | some code => simp

theorem isContinue_eq_true_iff : classifier.isContinue value = true ↔
    ∃ code, value.toCodePoint? = some code ∧ classifier.continuesAt code = true := by
  rw [isContinue]
  cases value.toCodePoint? with
  | none => simp
  | some code => simp

@[simp]
theorem isStart_uint32 : classifier.isStart (.uint32 code) = true ↔
    code ≤ maxCodePoint ∧ classifier.startsAt code = true := by
  rw [isStart_eq_true_iff, CodeValue.toCodePoint?_uint32]
  split <;> simp [*]

@[simp]
theorem isContinue_uint32 : classifier.isContinue (.uint32 code) = true ↔
    code ≤ maxCodePoint ∧ classifier.continuesAt code = true := by
  rw [isContinue_eq_true_iff, CodeValue.toCodePoint?_uint32]
  split <;> simp [*]

/-- What begins an identifier continues one, if this holds of all code points. -/
theorem isContinue_of_monotone
    (monotone : ∀ code, classifier.startsAt code = true → classifier.continuesAt code = true)
    (starts : classifier.isStart value = true) : classifier.isContinue value = true := by
  obtain ⟨code, isCode, startsAt⟩ := isStart_eq_true_iff.mp starts
  exact isContinue_eq_true_iff.mpr ⟨code, isCode, monotone code startsAt⟩

@[simp]
theorem covers_ofSets_start :
    Covers (ofSets version start continuing).start.intervals code ↔ code ∈ start := by
  simp [ofSets]

@[simp]
theorem covers_ofSets_continuing :
    Covers (ofSets version start continuing).continuing.intervals code ↔ code ∈ continuing := by
  simp [ofSets]

theorem coherent_ofSets (version : Version) (start continuing : CodeSet) :
    (ofSets version start continuing).Coherent where
  start_wellFormed := (IntervalTable.canonical_split start.canonical_runs).wellFormed
  continuing_wellFormed := (IntervalTable.canonical_split continuing.canonical_runs).wellFormed
  startMask_contains code small := by
    rw [covers_ofSets_start, ofSets, AsciiMask.contains_or, AsciiMask.contains_or,
      AsciiMask.contains_bit small, AsciiMask.contains_bit small, Bool.or_eq_true, Bool.or_eq_true,
      AsciiMask.contains_ofSet small, decide_eq_true_eq, decide_eq_true_eq, or_assoc]
  continueMask_contains code small := by
    rw [covers_ofSets_continuing, ofSets, AsciiMask.contains_or, AsciiMask.contains_bit small,
      Bool.or_eq_true, AsciiMask.contains_ofSet small, decide_eq_true_eq]

@[simp]
theorem startsAt_ofSets : (ofSets version start continuing).startsAt code = true ↔
    code ∈ start ∨ code = dollar ∨ code = underscore := by
  rw [(coherent_ofSets version start continuing).startsAt_eq_true_iff, covers_ofSets_start]

@[simp]
theorem continuesAt_ofSets : (ofSets version start continuing).continuesAt code = true ↔
    code ∈ continuing ∨ code = dollar ∨ code = zeroWidthNonJoiner ∨ code = zeroWidthJoiner := by
  rw [(coherent_ofSets version start continuing).continuesAt_eq_true_iff, covers_ofSets_continuing]

/-- A classifier answers by two sets of code values.  Its tables answer by the sets alone and do so
for every word; its two questions add `$`, `_` and the joiners and are asked of code points. -/
structure Decides (classifier : Classifier) (begins continues : UInt32 → Prop) : Prop where
  start_contains : ∀ code, classifier.start.contains code = true ↔ begins code
  continuing_contains : ∀ code, classifier.continuing.contains code = true ↔ continues code
  isStart_iff : ∀ code ≤ maxCodePoint, classifier.isStart (.uint32 code) = true ↔
    begins code ∨ code = dollar ∨ code = underscore
  isContinue_iff : ∀ code ≤ maxCodePoint, classifier.isContinue (.uint32 code) = true ↔
    continues code ∨ code = dollar ∨ code = zeroWidthNonJoiner ∨ code = zeroWidthJoiner

theorem decides_ofSets {begins continues : UInt32 → Prop}
    (mem_start : ∀ code, code ∈ start ↔ begins code)
    (mem_continuing : ∀ code, code ∈ continuing ↔ continues code) :
    (ofSets version start continuing).Decides begins continues where
  start_contains code := by
    rw [ofSets, IntervalTable.contains_split start.canonical_runs, CodeSet.covers_runs, mem_start]
  continuing_contains code := by
    rw [ofSets, IntervalTable.contains_split continuing.canonical_runs, CodeSet.covers_runs,
      mem_continuing]
  isStart_iff code small := by
    rw [isStart_uint32, and_iff_right small, startsAt_ofSets, mem_start]
  isContinue_iff code small := by
    rw [isContinue_uint32, and_iff_right small, continuesAt_ofSets, mem_continuing]

/-- Of a classifier whose second set includes the first, only `_` can begin an identifier without
continuing one: it is added to what begins identifiers but not to what continues them. -/
theorem continuesAt_ofSets_iff_of_startsAt (subset : ∀ code, code ∈ start → code ∈ continuing)
    (starts : (ofSets version start continuing).startsAt code = true) :
    (ofSets version start continuing).continuesAt code = true ↔
      code ≠ underscore ∨ underscore ∈ continuing := by
  rw [continuesAt_ofSets]
  constructor
  · intro continues
    by_cases isUnderscore : code = underscore
    · subst isUnderscore
      exact Or.inr (continues.resolve_right (by decide))
    · exact Or.inl isUnderscore
  · intro allowed
    rcases startsAt_ofSets.mp starts with member | rfl | rfl
    · exact Or.inl (subset code member)
    · exact Or.inr (Or.inl rfl)
    · exact Or.inl (allowed.resolve_left (fun different => different rfl))

end Classifier
end UnicodeIdentifier
