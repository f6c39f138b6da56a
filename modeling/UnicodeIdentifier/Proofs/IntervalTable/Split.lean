import UnicodeIdentifier.Proofs.IntervalTable.Lookup
import UnicodeIdentifier.Proofs.Interval

/-!
# Division of a list at the boundary

What a list of intervals holds up to the boundary is what the narrow view of its table holds, and
what it holds above is what the wide view holds.  Nothing is said about the order of the list for
this.  A canonical list gives a canonical table, whose lookup therefore finds what the list holds.
-/

namespace UnicodeIdentifier
namespace IntervalTable

variable {interval part : Interval} {intervals : List Interval} {table : IntervalTable}
  {code : UInt32}

theorem narrowMax_succ_le : narrowMax + 1 ≤ code ↔ narrowMax < code := by
  rw [UInt32.le_iff_toNat_le, UInt32.lt_iff_toNat_lt]
  exact Iff.rfl

theorem narrowPart?_eq_some_iff : narrowPart? interval = some part ↔
    interval.hi ≤ narrowMax ∧ interval = part ∨
      narrowMax < interval.hi ∧ interval.lo ≤ narrowMax ∧ ⟨interval.lo, narrowMax⟩ = part := by
  rw [narrowPart?]
  split
  · rename_i low
    simp [low, UInt32.not_lt.mpr low]
  · rename_i high
    split
    · rename_i above
      simp [high, UInt32.not_le.mpr above]
    · rename_i crosses
      simp [high, UInt32.not_le.mp high, UInt32.not_lt.mp crosses]

/-- The wide view keeps an interval that begins past the boundary and the end of one that
crosses it. -/
theorem widePart?_eq_some_iff : widePart? interval = some part ↔
    narrowMax < interval.hi ∧ (narrowMax < interval.lo ∧ interval = part ∨
      interval.lo ≤ narrowMax ∧ ⟨narrowMax + 1, interval.hi⟩ = part) := by
  rw [widePart?]
  split
  · rename_i low
    simp [UInt32.not_lt.mpr low]
  · rename_i high
    split
    · rename_i above
      simp [UInt32.not_le.mp high, above, UInt32.not_le.mpr above]
    · rename_i crosses
      simp [UInt32.not_le.mp high, crosses, UInt32.not_lt.mp crosses]

theorem mem_narrowPart? :
    (∃ part, narrowPart? interval = some part ∧ code ∈ part) ↔ code ∈ interval ∧ code ≤ narrowMax := by
  simp only [narrowPart?_eq_some_iff]
  constructor
  · rintro ⟨part, ⟨low, rfl⟩ | ⟨high, _, rfl⟩, within⟩
    · exact ⟨within, UInt32.le_trans within.2 low⟩
    · exact ⟨⟨within.1, UInt32.le_trans within.2 (UInt32.le_of_lt high)⟩, within.2⟩
  · rintro ⟨within, small⟩
    by_cases low : interval.hi ≤ narrowMax
    · exact ⟨interval, Or.inl ⟨low, rfl⟩, within⟩
    · have begins := UInt32.le_trans within.1 small
      exact ⟨_, Or.inr ⟨UInt32.not_le.mp low, begins, rfl⟩, within.1, small⟩

theorem mem_widePart? :
    (∃ part, widePart? interval = some part ∧ code ∈ part) ↔ code ∈ interval ∧ narrowMax < code := by
  simp only [widePart?_eq_some_iff]
  constructor
  · rintro ⟨part, ⟨_, ⟨above, rfl⟩ | ⟨crosses, rfl⟩⟩, within⟩
    · exact ⟨within, UInt32.lt_of_lt_of_le above within.1⟩
    · have large := narrowMax_succ_le.mp within.1
      exact ⟨⟨UInt32.le_trans crosses (UInt32.le_of_lt large), within.2⟩, large⟩
  · rintro ⟨within, large⟩
    have high := UInt32.lt_of_lt_of_le large within.2
    by_cases crosses : interval.lo ≤ narrowMax
    · exact ⟨_, ⟨high, Or.inr ⟨crosses, rfl⟩⟩, narrowMax_succ_le.mpr large, within.2⟩
    · exact ⟨interval, ⟨high, Or.inl ⟨UInt32.not_le.mp crosses, rfl⟩⟩, within⟩

theorem hi_le_of_narrowPart? (isPart : narrowPart? interval = some part) : part.hi ≤ narrowMax := by
  rcases narrowPart?_eq_some_iff.mp isPart with ⟨low, rfl⟩ | ⟨_, _, rfl⟩
  · exact low
  · exact UInt32.le_refl narrowMax

theorem lt_lo_of_widePart? (isPart : widePart? interval = some part) : narrowMax < part.lo := by
  obtain ⟨_, ⟨above, rfl⟩ | ⟨_, rfl⟩⟩ := widePart?_eq_some_iff.mp isPart
  · exact above
  · exact narrowMax_succ_le.mp (UInt32.le_refl _)

/-- A part lies inside its interval and is not empty if the interval is not. -/
structure IsPartOf (part interval : Interval) : Prop where
  lo_le : interval.lo ≤ part.lo
  hi_le : part.hi ≤ interval.hi
  nonempty : interval.lo ≤ interval.hi → part.lo ≤ part.hi

theorem IsPartOf.refl (interval : Interval) : IsPartOf interval interval :=
  ⟨UInt32.le_refl _, UInt32.le_refl _, id⟩

theorem isPartOf_of_narrowPart? (isPart : narrowPart? interval = some part) :
    IsPartOf part interval := by
  rcases narrowPart?_eq_some_iff.mp isPart with ⟨_, rfl⟩ | ⟨high, crosses, rfl⟩
  · exact IsPartOf.refl interval
  · exact ⟨UInt32.le_refl _, UInt32.le_of_lt high, fun _ => crosses⟩

theorem isPartOf_of_widePart? (isPart : widePart? interval = some part) :
    IsPartOf part interval := by
  obtain ⟨high, ⟨_, rfl⟩ | ⟨crosses, rfl⟩⟩ := widePart?_eq_some_iff.mp isPart
  · exact IsPartOf.refl interval
  · have past : narrowMax < narrowMax + 1 := narrowMax_succ_le.mp (UInt32.le_refl _)
    exact ⟨UInt32.le_trans crosses (UInt32.le_of_lt past), UInt32.le_refl _,
      fun _ => narrowMax_succ_le.mpr high⟩

/-- A view holds the values of the list for which it is made, when each of its parts does so for the
interval behind it. -/
theorem covers_filterMap {part? : Interval → Option Interval} {side : Prop}
    (mem_part : ∀ interval, (∃ part, part? interval = some part ∧ code ∈ part) ↔
      code ∈ interval ∧ side) :
    Covers (intervals.filterMap part?) code ↔ Covers intervals code ∧ side := by
  constructor
  · rintro ⟨part, listed, within⟩
    obtain ⟨interval, member, isPart⟩ := List.mem_filterMap.mp listed
    have ⟨inside, onSide⟩ := (mem_part interval).mp ⟨part, isPart, within⟩
    exact ⟨⟨interval, member, inside⟩, onSide⟩
  · rintro ⟨⟨interval, member, inside⟩, onSide⟩
    obtain ⟨part, isPart, within⟩ := (mem_part interval).mpr ⟨inside, onSide⟩
    exact ⟨part, List.mem_filterMap.mpr ⟨interval, member, isPart⟩, within⟩

theorem covers_split_narrow :
    Covers (split intervals).narrow code ↔ Covers intervals code ∧ code ≤ narrowMax :=
  covers_filterMap fun _ => mem_narrowPart?

theorem covers_split_wide :
    Covers (split intervals).wide.toList code ↔ Covers intervals code ∧ narrowMax < code :=
  covers_filterMap fun _ => mem_widePart?

theorem covers_intervals : Covers table.intervals code ↔
    Covers table.narrow code ∨ Covers table.wide.toList code := covers_append

/-- Up to the boundary only the narrow view counts. -/
theorem Divided.covers_intervals_of_le (divided : table.Divided) (low : code ≤ narrowMax) :
    Covers table.intervals code ↔ Covers table.narrow code := by
  rw [covers_intervals]
  refine or_iff_left ?_
  rintro ⟨interval, member, within⟩
  exact UInt32.lt_irrefl _ (UInt32.lt_of_lt_of_le (divided.lt_wide interval member)
    (UInt32.le_trans within.1 low))

/-- Division loses no value and adds none. -/
@[simp]
theorem covers_split : Covers (split intervals).intervals code ↔ Covers intervals code := by
  rw [covers_intervals, covers_split_narrow, covers_split_wide, ← and_or_left]
  refine and_iff_left ?_
  rw [← UInt32.not_le]
  exact Classical.em _

theorem divided_split (intervals : List Interval) : (split intervals).Divided where
  narrow_le part member := by
    obtain ⟨_, _, isPart⟩ := List.mem_filterMap.mp member
    exact hi_le_of_narrowPart? isPart
  lt_wide part member := by
    obtain ⟨_, _, isPart⟩ := List.mem_filterMap.mp member
    exact lt_lo_of_widePart? isPart

/-- Taking at most one part of each interval keeps a list canonical. -/
theorem canonical_filterMap {part? : Interval → Option Interval}
    (isPartOf : ∀ {interval part}, part? interval = some part → IsPartOf part interval)
    (canonical : UnicodeIdentifier.Canonical intervals) :
    UnicodeIdentifier.Canonical (intervals.filterMap part?) := by
  refine ⟨fun part member => ?_, canonical.2.filterMap part? ?_⟩
  · obtain ⟨interval, listed, isPart⟩ := List.mem_filterMap.mp member
    exact (isPartOf isPart).nonempty (canonical.1 interval listed)
  · intro first second apart firstPart isFirst secondPart isSecond
    have hi_le := (isPartOf isFirst).hi_le
    have lo_le := (isPartOf isSecond).lo_le
    rw [UInt32.le_iff_toNat_le] at hi_le lo_le
    simp only [Interval.Apart] at apart ⊢
    omega

theorem canonical_split (canonical : UnicodeIdentifier.Canonical intervals) :
    (split intervals).Canonical where
  toDivided := divided_split intervals
  narrow_canonical := canonical_filterMap isPartOf_of_narrowPart? canonical
  wide_canonical := canonical_filterMap isPartOf_of_widePart? canonical

theorem Canonical.wellFormed (canonical : table.Canonical) : table.WellFormed where
  toDivided := canonical.toDivided
  narrow_ordered := canonical.narrow_canonical.ordered
  wide_ordered := canonical.wide_canonical.ordered

/-- The table of a canonical list contains the values that the list holds. -/
theorem contains_split (canonical : UnicodeIdentifier.Canonical intervals) :
    (split intervals).contains code = true ↔ Covers intervals code := by
  rw [contains_eq_true_iff (canonical_split canonical).wellFormed, covers_split]

end IntervalTable
end UnicodeIdentifier
