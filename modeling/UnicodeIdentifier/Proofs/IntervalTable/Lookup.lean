import UnicodeIdentifier.IntervalTable

/-!
# Lookup finds what the intervals hold

On ordered intervals both searches answer whether some interval holds the value.  A table whose
views are ordered and divided at the boundary therefore contains exactly the values that its
intervals hold.
-/

namespace UnicodeIdentifier
namespace IntervalTable

theorem scan_eq_true_iff {intervals : List Interval} (ordered : Ordered intervals)
    {code : UInt32} : scan code intervals = true ↔ Covers intervals code := by
  obtain ⟨nonempty, before⟩ := ordered
  induction intervals with
  | nil => simp [scan]
  | cons interval rest ih =>
    have later := ih (fun other member => nonempty other (List.mem_cons_of_mem _ member)) before.tail
    have rest_lo : Covers rest code → interval.hi < code := by
      rintro ⟨other, member, within⟩
      exact UInt32.lt_of_lt_of_le (List.rel_of_pairwise_cons before member) within.1
    have lo_le := nonempty interval List.mem_cons_self
    rw [scan, covers_cons, Interval.mem_def]
    simp only [UInt32.lt_iff_toNat_lt, UInt32.le_iff_toNat_le] at rest_lo lo_le ⊢
    split
    · simp only [Bool.false_eq_true, false_iff, not_or]
      exact ⟨by omega, fun covered => by have := rest_lo covered; omega⟩
    · split
      · simp only [true_iff]
        exact Or.inl (by omega)
      · rw [later]
        exact ⟨Or.inr, fun either => either.resolve_left (by omega)⟩

/-- A search answers whether the value lies in one of the intervals that it looks at. -/
theorem search_eq_true_iff {intervals : Array Interval} (ordered : Ordered intervals.toList)
    {code : UInt32} {base count : Nat} (bounded : base + count ≤ intervals.size) :
    search intervals code base count bounded = true ↔
      ∃ (index : Nat) (inside : index < intervals.size),
        base ≤ index ∧ index < base + count ∧ code ∈ intervals[index] := by
  obtain ⟨nonempty, before⟩ := ordered
  have lo_le : ∀ (index : Nat) (inside : index < intervals.size),
      intervals[index].lo ≤ intervals[index].hi := fun index inside =>
    nonempty _ (Array.getElem_mem_toList inside)
  have hi_lt : ∀ (first second : Nat) (firstInside : first < intervals.size)
      (inside : second < intervals.size), first < second →
      intervals[first].hi < intervals[second].lo := fun first second firstInside inside less =>
    List.pairwise_iff_getElem.mp before first second (by simpa using firstInside)
      (by simpa using inside) less
  fun_induction search intervals code base count bounded with
  | case1 base bounded => simp; omega
  | case2 base count bounded _ half inside middle below ih =>
    refine Iff.trans ih ⟨?_, ?_⟩
    · rintro ⟨index, within, above, less, member⟩
      exact ⟨index, within, above, by omega, member⟩
    · rintro ⟨index, within, above, less, member⟩
      refine ⟨index, within, above, ?_, member⟩
      apply Nat.lt_of_not_le
      intro after
      have code_lt : code < intervals[index].lo := by
        rcases Nat.lt_or_eq_of_le after with later | same
        · exact UInt32.lt_trans below
            (UInt32.lt_of_le_of_lt (lo_le _ inside) (hi_lt _ index inside within later))
        · simpa only [← same] using below
      exact UInt32.lt_irrefl _ (UInt32.lt_of_lt_of_le code_lt member.1)
  | case3 base count bounded _ half inside middle notBelow above ih =>
    refine Iff.trans ih ⟨?_, ?_⟩
    · rintro ⟨index, within, after, less, member⟩
      exact ⟨index, within, by omega, by omega, member⟩
    · rintro ⟨index, within, after, less, member⟩
      refine ⟨index, within, ?_, by omega, member⟩
      apply Nat.lt_of_not_le
      intro early
      have hi_lt_code : intervals[index].hi < code := by
        rcases Nat.lt_or_eq_of_le early with earlier | same
        · exact UInt32.lt_trans (hi_lt index _ within inside earlier)
            (UInt32.lt_of_le_of_lt (lo_le _ inside) above)
        · simpa only [same] using above
      exact UInt32.lt_irrefl _ (UInt32.lt_of_lt_of_le hi_lt_code member.2)
  | case4 base count bounded _ half inside middle notBelow notAbove =>
    simp only [true_iff]
    exact ⟨base + half, inside, by omega, by omega, UInt32.not_lt.mp notBelow,
      UInt32.not_lt.mp notAbove⟩

/-- A well-formed table contains the values that its intervals hold. -/
theorem contains_eq_true_iff {table : IntervalTable} (wellFormed : table.WellFormed)
    {code : UInt32} : table.contains code = true ↔ Covers table.intervals code := by
  rw [contains, intervals, covers_append]
  split
  · rename_i low
    rw [scan_eq_true_iff wellFormed.narrow_ordered]
    refine ⟨Or.inl, fun either => either.resolve_right ?_⟩
    rintro ⟨interval, member, within⟩
    exact UInt32.lt_irrefl _ (UInt32.lt_of_lt_of_le (wellFormed.lt_wide interval member)
      (UInt32.le_trans within.1 low))
  · rename_i high
    rw [search_eq_true_iff wellFormed.wide_ordered]
    constructor
    · rintro ⟨index, inside, _, _, member⟩
      exact Or.inr ⟨_, Array.getElem_mem_toList inside, member⟩
    · rintro (⟨interval, member, within⟩ | ⟨interval, member, within⟩)
      · exact absurd (UInt32.le_trans within.2 (wellFormed.narrow_le interval member)) high
      · obtain ⟨index, inside, rfl⟩ := List.mem_iff_getElem.mp member
        exact ⟨index, by simpa using inside, Nat.zero_le _, by simpa using inside,
          by simpa using within⟩

end IntervalTable
end UnicodeIdentifier
