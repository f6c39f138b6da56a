import UnicodeIdentifier.Proofs.IntervalTable.Members

/-!
# Joining what was divided

An ordered list has intervals up to the boundary, then at most one that crosses it, then intervals
past it.  Division cuts the crossing one and leaves the others as they are, so a second division
changes nothing, and fusing the two parts that touch at the boundary restores a canonical list.
-/

namespace UnicodeIdentifier
namespace IntervalTable

variable {interval part crossing : Interval} {intervals low high : List Interval}
  {table : IntervalTable} {code : UInt32}

theorem narrowPart?_of_hi_le (ends : interval.hi ≤ narrowMax) :
    narrowPart? interval = some interval :=
  narrowPart?_eq_some_iff.mpr (Or.inl ⟨ends, rfl⟩)

theorem widePart?_of_hi_le (ends : interval.hi ≤ narrowMax) : widePart? interval = none :=
  if_pos ends

/-- The interval lies past the boundary with both ends. -/
structure Beyond (interval : Interval) : Prop where
  lt_lo : narrowMax < interval.lo
  lt_hi : narrowMax < interval.hi

theorem narrowPart?_of_beyond (beyond : Beyond interval) : narrowPart? interval = none := by
  rw [narrowPart?, if_neg (UInt32.not_le.mpr beyond.lt_hi), if_pos beyond.lt_lo]

theorem widePart?_of_beyond (beyond : Beyond interval) : widePart? interval = some interval :=
  widePart?_eq_some_iff.mpr ⟨beyond.lt_hi, Or.inl ⟨beyond.lt_lo, rfl⟩⟩

/-- The interval holds the values on both sides of the boundary. -/
def Crosses (interval : Interval) : Prop := narrowMax ∈ interval ∧ narrowMax + 1 ∈ interval

instance (interval : Interval) : Decidable (Crosses interval) :=
  inferInstanceAs (Decidable (narrowMax ∈ interval ∧ narrowMax + 1 ∈ interval))

theorem crosses_iff : Crosses interval ↔ interval.lo ≤ narrowMax ∧ narrowMax < interval.hi := by
  have past : narrowMax < narrowMax + 1 := by decide
  rw [Crosses, Interval.mem_def, Interval.mem_def, narrowMax_succ_le]
  constructor
  · intro ⟨⟨begins, _⟩, _, ends⟩
    exact ⟨begins, ends⟩
  · intro ⟨begins, ends⟩
    exact ⟨⟨begins, UInt32.le_of_lt ends⟩, UInt32.le_trans begins (UInt32.le_of_lt past), ends⟩

theorem narrowPart?_of_crosses (crosses : Crosses interval) :
    narrowPart? interval = some ⟨interval.lo, narrowMax⟩ := by
  obtain ⟨begins, ends⟩ := crosses_iff.mp crosses
  exact narrowPart?_eq_some_iff.mpr (Or.inr ⟨ends, begins, rfl⟩)

theorem widePart?_of_crosses (crosses : Crosses interval) :
    widePart? interval = some ⟨narrowMax + 1, interval.hi⟩ := by
  obtain ⟨begins, ends⟩ := crosses_iff.mp crosses
  exact widePart?_eq_some_iff.mpr ⟨ends, Or.inr ⟨begins, rfl⟩⟩

theorem beyond_of_widePart? (isPart : widePart? interval = some part) : Beyond part := by
  have begins := lt_lo_of_widePart? isPart
  obtain ⟨ends, ⟨_, rfl⟩ | ⟨_, rfl⟩⟩ := widePart?_eq_some_iff.mp isPart
  · exact ⟨begins, ends⟩
  · exact ⟨begins, ends⟩

/-- Each value is looked for in the view on its side. -/
theorem covers_iff_sides : Covers intervals code ↔
    code ≤ narrowMax ∧ Covers (split intervals).narrow code ∨
      narrowMax + 1 ≤ code ∧ Covers (split intervals).wide.toList code := by
  rw [covers_split_narrow, covers_split_wide, narrowMax_succ_le]
  constructor
  · intro covered
    rcases Classical.em (code ≤ narrowMax) with low | high
    · exact Or.inl ⟨low, covered, low⟩
    · have past := UInt32.not_le.mp high
      exact Or.inr ⟨past, covered, past⟩
  · intro either
    rcases either with ⟨_, covered, _⟩ | ⟨_, covered, _⟩
    · exact covered
    · exact covered

theorem filterMap_narrowPart?_of_hi_le (low_le : ∀ interval ∈ low, interval.hi ≤ narrowMax) :
    low.filterMap narrowPart? = low :=
  (List.filterMap_congr fun interval member => narrowPart?_of_hi_le (low_le interval member)).trans
    List.filterMap_some

theorem filterMap_widePart?_of_hi_le (low_le : ∀ interval ∈ low, interval.hi ≤ narrowMax) :
    low.filterMap widePart? = [] :=
  List.filterMap_eq_nil_iff.mpr fun interval member => widePart?_of_hi_le (low_le interval member)

theorem filterMap_narrowPart?_of_beyond (high_beyond : ∀ interval ∈ high, Beyond interval) :
    high.filterMap narrowPart? = [] :=
  List.filterMap_eq_nil_iff.mpr fun interval member =>
    narrowPart?_of_beyond (high_beyond interval member)

theorem filterMap_widePart?_of_beyond (high_beyond : ∀ interval ∈ high, Beyond interval) :
    high.filterMap widePart? = high :=
  (List.filterMap_congr fun interval member =>
    widePart?_of_beyond (high_beyond interval member)).trans List.filterMap_some

/-- Division takes a list apart where the intervals up to the boundary end and those past it
begin. -/
theorem split_append (low_le : ∀ interval ∈ low, interval.hi ≤ narrowMax)
    (high_beyond : ∀ interval ∈ high, Beyond interval) :
    split (low ++ high) = ⟨low, high.toArray⟩ := by
  rw [split, List.filterMap_append, List.filterMap_append, filterMap_narrowPart?_of_hi_le low_le,
    filterMap_widePart?_of_hi_le low_le, filterMap_narrowPart?_of_beyond high_beyond,
    filterMap_widePart?_of_beyond high_beyond, List.append_nil, List.nil_append]

/-- An interval that crosses the boundary gives a part to each view. -/
theorem split_append_cons (low_le : ∀ interval ∈ low, interval.hi ≤ narrowMax)
    (crosses : Crosses crossing) (high_beyond : ∀ interval ∈ high, Beyond interval) :
    split (low ++ crossing :: high) = ⟨low ++ [⟨crossing.lo, narrowMax⟩],
      (⟨narrowMax + 1, crossing.hi⟩ :: high).toArray⟩ := by
  rw [split, List.filterMap_append, List.filterMap_append, filterMap_narrowPart?_of_hi_le low_le,
    filterMap_widePart?_of_hi_le low_le, List.filterMap_cons_some (narrowPart?_of_crosses crosses),
    List.filterMap_cons_some (widePart?_of_crosses crosses),
    filterMap_narrowPart?_of_beyond high_beyond, filterMap_widePart?_of_beyond high_beyond,
    List.nil_append]

/-- Dividing the parts again changes nothing, whatever list they come from. -/
theorem split_intervals_split (intervals : List Interval) :
    split (split intervals).intervals = split intervals := by
  apply split_append (divided_split intervals).narrow_le
  intro part member
  obtain ⟨_, _, isPart⟩ := List.mem_filterMap.mp member
  exact beyond_of_widePart? isPart

/-- A list with intervals up to the boundary, at most one that crosses it, and intervals past it. -/
inductive Parted : List Interval → Prop
  | clear (low high : List Interval) (low_le : ∀ interval ∈ low, interval.hi ≤ narrowMax)
      (high_beyond : ∀ interval ∈ high, Beyond interval) : Parted (low ++ high)
  | cut (low : List Interval) (crossing : Interval) (high : List Interval)
      (low_le : ∀ interval ∈ low, interval.hi ≤ narrowMax) (crosses : Crosses crossing)
      (high_beyond : ∀ interval ∈ high, Beyond interval) : Parted (low ++ crossing :: high)

theorem Parted.cons (parted : Parted intervals) (ends : interval.hi ≤ narrowMax) :
    Parted (interval :: intervals) := by
  cases parted with
  | clear low high low_le high_beyond =>
    exact .clear (interval :: low) high (List.forall_mem_cons.mpr ⟨ends, low_le⟩) high_beyond
  | cut low crossing high low_le crosses high_beyond =>
    exact .cut (interval :: low) crossing high (List.forall_mem_cons.mpr ⟨ends, low_le⟩) crosses
      high_beyond

theorem parted_of_ordered (ordered : Ordered intervals) : Parted intervals := by
  induction intervals with
  | nil => exact .clear [] [] (by simp) (by simp)
  | cons first rest ih =>
    by_cases ends : first.hi ≤ narrowMax
    · exact (ih ordered.tail).cons ends
    · have goesOn : narrowMax < first.hi := UInt32.not_le.mp ends
      have rest_beyond : ∀ interval ∈ rest, Beyond interval := by
        intro later member
        have lt_lo := UInt32.lt_trans goesOn (ordered.before_of_mem member)
        exact ⟨lt_lo, UInt32.lt_of_lt_of_le lt_lo (ordered.tail.1 later member)⟩
      by_cases begins : first.lo ≤ narrowMax
      · exact .cut [] first rest (by simp) (crosses_iff.mpr ⟨begins, goesOn⟩) rest_beyond
      · have first_beyond : Beyond first := ⟨UInt32.not_le.mp begins, goesOn⟩
        exact .clear [] (first :: rest) (by simp)
          (List.forall_mem_cons.mpr ⟨first_beyond, rest_beyond⟩)

/-- The intervals of both views in one list, where the last narrow and the first wide one are fused
if they touch at the boundary. -/
def join (table : IntervalTable) : List Interval :=
  match table.narrow.getLast?, table.wide.toList with
  | some last, first :: wide =>
    if last.hi = narrowMax ∧ first.lo = narrowMax + 1 then
      table.narrow.dropLast ++ ⟨last.lo, first.hi⟩ :: wide
    else table.intervals
  | _, _ => table.intervals

/-- Parts that touch are fused. -/
theorem join_of_touching {last first : Interval} (touching : last.hi = narrowMax ∧
    first.lo = narrowMax + 1) :
    join ⟨low ++ [last], (first :: high).toArray⟩ = low ++ ⟨last.lo, first.hi⟩ :: high := by
  simp only [join, List.getLast?_concat, if_pos touching, List.dropLast_concat]

theorem join_of_apart (apart : ∀ last ∈ table.narrow, ∀ first ∈ table.wide.toList, last.Apart first) :
    table.join = table.intervals := by
  rw [join]
  split
  · rename_i last first wide isLast isCons
    have isApart : last.Apart first :=
      apart last (List.mem_of_getLast? isLast) first (isCons ▸ List.mem_cons_self)
    refine if_neg fun touching => ?_
    rw [Interval.Apart, touching.1, touching.2] at isApart
    exact absurd isApart (by decide)
  · rfl

/-- Joining undoes the division of a canonical list. -/
theorem join_split (canonical : UnicodeIdentifier.Canonical intervals) :
    (split intervals).join = intervals := by
  cases parted_of_ordered canonical.ordered with
  | clear low high low_le high_beyond =>
    have apart : ∀ last ∈ low, ∀ first ∈ high, last.Apart first :=
      (List.pairwise_append.mp canonical.2).2.2
    rw [split_append low_le high_beyond]
    exact join_of_apart apart
  | cut low crossing high low_le crosses high_beyond =>
    rw [split_append_cons low_le crosses high_beyond]
    exact join_of_touching ⟨rfl, rfl⟩

theorem not_crosses_of_hi_le (ends : interval.hi ≤ narrowMax) : ¬ Crosses interval := fun crosses =>
  UInt32.not_lt.mpr ends (crosses_iff.mp crosses).2

theorem Beyond.not_crosses (beyond : Beyond interval) : ¬ Crosses interval := fun crosses =>
  UInt32.not_le.mpr beyond.lt_lo (crosses_iff.mp crosses).1

/-- Division makes an ordered list longer by one interval if an interval crosses the boundary, and
leaves the number of intervals as it is otherwise. -/
theorem length_intervals_split (ordered : Ordered intervals) : (split intervals).intervals.length =
    intervals.length + if ∃ interval ∈ intervals, Crosses interval then 1 else 0 := by
  cases parted_of_ordered ordered with
  | clear low high low_le high_beyond =>
    have none_crosses : ¬ ∃ interval ∈ low ++ high, Crosses interval := by
      intro ⟨interval, member, crosses⟩
      rcases List.mem_append.mp member with isLow | isHigh
      · exact not_crosses_of_hi_le (low_le interval isLow) crosses
      · exact (high_beyond interval isHigh).not_crosses crosses
    rw [if_neg none_crosses, split_append low_le high_beyond, IntervalTable.intervals, Nat.add_zero]
  | cut low crossing high low_le crosses high_beyond =>
    have one_crosses : ∃ interval ∈ low ++ crossing :: high, Crosses interval :=
      ⟨crossing, List.mem_append_right low List.mem_cons_self, crosses⟩
    rw [if_pos one_crosses, split_append_cons low_le crosses high_beyond, IntervalTable.intervals]
    simp only [List.length_append, List.length_cons, List.length_nil]
    omega

/-- Division at the boundary loses nothing, whatever the list: its views hold what the list holds on
their sides and nothing else, and a second division changes nothing.  A canonical list gives canonical
views with one interval more if an interval crosses the boundary, and joining them restores it. -/
theorem split_lossless (intervals : List Interval) :
    (∀ code, Covers intervals code ↔
      code ≤ 0xFF ∧ Covers (split intervals).narrow code ∨
        0x100 ≤ code ∧ Covers (split intervals).wide.toList code) ∧
    (∀ part ∈ (split intervals).narrow, part.hi ≤ 0xFF) ∧
    (∀ part ∈ (split intervals).wide.toList, 0x100 ≤ part.lo) ∧
    split ((split intervals).narrow ++ (split intervals).wide.toList) = split intervals ∧
    (UnicodeIdentifier.Canonical intervals →
      UnicodeIdentifier.Canonical (split intervals).narrow ∧
      UnicodeIdentifier.Canonical (split intervals).wide.toList ∧
      ((split intervals).narrow ++ (split intervals).wide.toList).length = intervals.length +
        (if ∃ interval ∈ intervals, 0xFF ∈ interval ∧ 0x100 ∈ interval then 1 else 0) ∧
      (split intervals).join = intervals) := by
  have divided := divided_split intervals
  refine ⟨fun code => ?_, divided.narrow_le, fun part member => ?_, split_intervals_split intervals,
    fun canonical => ?_⟩
  · exact covers_iff_sides
  · exact narrowMax_succ_le.mpr (divided.lt_wide part member)
  · have views := canonical_split canonical
    exact ⟨views.narrow_canonical, views.wide_canonical, length_intervals_split canonical.ordered,
      join_split canonical⟩

/-- Three intervals of letters, of which the second crosses the boundary. -/
def crossingLetters : List Interval := [⟨0x41, 0x5A⟩, ⟨0xF8, 0x2C1⟩, ⟨0x2C6, 0x2D1⟩]

/-- The letters are divided into four intervals, and joining these restores the three. -/
theorem split_lossless_crossing : UnicodeIdentifier.Canonical crossingLetters ∧
    ((split crossingLetters).narrow ++ (split crossingLetters).wide.toList).length = 4 ∧
    (split crossingLetters).join = crossingLetters := by
  have canonical : UnicodeIdentifier.Canonical crossingLetters := by decide
  obtain ⟨_, _, _, _, of_canonical⟩ := split_lossless crossingLetters
  obtain ⟨_, _, length_eq, restored⟩ := of_canonical canonical
  exact ⟨canonical, length_eq, restored⟩

end IntervalTable
end UnicodeIdentifier
