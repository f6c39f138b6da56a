import Mathlib.Data.List.Chain
import UnicodeIdentifier.Proofs.CodeSet.Runs
import UnicodeIdentifier.Proofs.IntervalTable.Split

/-!
# Tables and their members

Where no interval is empty, order between neighbours is order throughout, so lookup finds exactly
what the intervals of such a table hold.  In a canonical list the first interval begins with the
least value held and goes on as long as values follow one another; hence the values determine the
list, and likewise a canonical table.
-/

namespace UnicodeIdentifier

variable {first second third interval other : Interval} {intervals rest others left right : List Interval}
  {code : UInt32}

theorem Interval.Before.trans (firstBefore : first.Before second) (nonempty : second.lo ≤ second.hi)
    (secondBefore : second.Before third) : first.Before third :=
  UInt32.lt_trans (UInt32.lt_of_lt_of_le firstBefore nonempty) secondBefore

theorem Interval.Apart.trans (firstApart : first.Apart second) (nonempty : second.lo ≤ second.hi)
    (secondApart : second.Apart third) : first.Apart third := by
  rw [UInt32.le_iff_toNat_le] at nonempty
  rw [Interval.Apart] at firstApart secondApart ⊢
  omega

/-- A relation that intervals hand on, unless they are empty, holds throughout a list without empty
intervals if it holds between neighbours. -/
theorem pairwise_of_isChain {follows : Interval → Interval → Prop}
    (trans : ∀ {first second third : Interval}, follows first second → second.lo ≤ second.hi →
      follows second third → follows first third)
    (nonempty : ∀ interval ∈ intervals, interval.lo ≤ interval.hi)
    (chain : intervals.IsChain follows) : intervals.Pairwise follows := by
  induction intervals with
  | nil => exact List.Pairwise.nil
  | cons first rest ih =>
    have restNonempty : ∀ interval ∈ rest, interval.lo ≤ interval.hi := fun later member =>
      nonempty later (List.mem_cons_of_mem first member)
    have restPairwise : rest.Pairwise follows := ih restNonempty chain.of_cons
    refine List.pairwise_cons.mpr ⟨fun later member => ?_, restPairwise⟩
    cases rest with
    | nil => exact absurd member List.not_mem_nil
    | cons second others =>
      have firstFollows : follows first second := chain.rel
      rcases List.mem_cons.mp member with rfl | beyond
      · exact firstFollows
      · have secondFollows : follows second later := List.rel_of_pairwise_cons restPairwise beyond
        exact trans firstFollows (restNonempty second List.mem_cons_self) secondFollows

theorem ordered_of_isChain (nonempty : ∀ interval ∈ intervals, interval.lo ≤ interval.hi)
    (chain : intervals.IsChain Interval.Before) : Ordered intervals :=
  ⟨nonempty, pairwise_of_isChain Interval.Before.trans nonempty chain⟩

/-- A list is canonical if none of its intervals is empty and there is a gap between any two
neighbours. -/
theorem canonical_iff_isChain : Canonical intervals ↔
    (∀ interval ∈ intervals, interval.lo ≤ interval.hi) ∧ intervals.IsChain Interval.Apart := by
  constructor
  · intro ⟨nonempty, apart⟩
    exact ⟨nonempty, apart.isChain⟩
  · intro ⟨nonempty, chain⟩
    exact ⟨nonempty, pairwise_of_isChain Interval.Apart.trans nonempty chain⟩

namespace IntervalTable

/-- A table contains a value exactly when one of its intervals does, whatever its views, as long as
none of their intervals is empty, each ends below the next one in its view, and the views lie on
their sides of the boundary. -/
theorem contains_iff_of_isChain (narrow wide : List Interval)
    (nonempty : ∀ interval ∈ narrow ++ wide, interval.lo ≤ interval.hi)
    (narrow_chain : narrow.IsChain Interval.Before) (wide_chain : wide.IsChain Interval.Before)
    (narrow_le : ∀ interval ∈ narrow, interval.hi ≤ 0xFF)
    (le_wide : ∀ interval ∈ wide, 0x100 ≤ interval.lo) (code : UInt32) :
    (IntervalTable.mk narrow wide.toArray).contains code = true ↔
      ∃ interval ∈ narrow ++ wide, interval.lo ≤ code ∧ code ≤ interval.hi := by
  have narrow_ordered : Ordered narrow :=
    ordered_of_isChain (fun interval member => nonempty interval (List.mem_append_left wide member))
      narrow_chain
  have wide_ordered : Ordered wide :=
    ordered_of_isChain
      (fun interval member => nonempty interval (List.mem_append_right narrow member)) wide_chain
  have divided : (IntervalTable.mk narrow wide.toArray).Divided :=
    ⟨narrow_le, fun interval member => narrowMax_succ_le.mp (le_wide interval member)⟩
  exact contains_eq_true_iff ⟨divided, narrow_ordered, wide_ordered⟩

/-- Two intervals that touch at the boundary, a gap, and a single point: the value before the point
is in no interval, the point is in one. -/
theorem contains_iff_of_isChain_sample :
    (IntervalTable.mk [⟨0x41, 0x5A⟩, ⟨0xF8, 0xFF⟩] #[⟨0x100, 0x2C1⟩, ⟨0x2EC, 0x2EC⟩]).contains 0x2EB =
        false ∧
      (IntervalTable.mk [⟨0x41, 0x5A⟩, ⟨0xF8, 0xFF⟩] #[⟨0x100, 0x2C1⟩, ⟨0x2EC, 0x2EC⟩]).contains 0x2EC =
        true := by
  have contains_iff := contains_iff_of_isChain [⟨0x41, 0x5A⟩, ⟨0xF8, 0xFF⟩]
    [⟨0x100, 0x2C1⟩, ⟨0x2EC, 0x2EC⟩] (by decide) (by decide) (by decide) (by decide) (by decide)
  constructor
  · rw [Bool.eq_false_iff, ne_eq, contains_iff]
    decide
  · rw [contains_iff]
    decide

end IntervalTable

theorem covers_head (rest : List Interval) (nonempty : interval.lo ≤ interval.hi) :
    Covers (interval :: rest) interval.lo :=
  ⟨interval, List.mem_cons_self, UInt32.le_refl _, nonempty⟩

theorem head_lo_le_of_covers (ordered : Ordered (interval :: rest))
    (covered : Covers (interval :: rest) code) : interval.lo ≤ code := by
  rcases covers_cons.mp covered with inside | ⟨later, member, inside⟩
  · exact inside.1
  · have before : interval.Before later := ordered.before_of_mem member
    have nonempty := ordered.1 interval List.mem_cons_self
    exact UInt32.le_trans nonempty (UInt32.le_of_lt (UInt32.lt_of_lt_of_le before inside.1))

theorem covers_tail_iff (ordered : Ordered (interval :: rest)) :
    Covers rest code ↔ Covers (interval :: rest) code ∧ interval.hi < code := by
  rw [covers_cons]
  constructor
  · intro covered
    obtain ⟨later, member, inside⟩ := covered
    have before : interval.Before later := ordered.before_of_mem member
    exact ⟨Or.inr ⟨later, member, inside⟩, UInt32.lt_of_lt_of_le before inside.1⟩
  · rintro ⟨inside | covered, past⟩
    · exact absurd (UInt32.lt_of_lt_of_le past inside.2) (UInt32.lt_irrefl _)
    · exact covered

/-- After the first interval of a canonical list comes a value that the list does not hold. -/
theorem not_covers_succ_hi (canonical : Canonical (interval :: rest))
    (next : code.toNat = interval.hi.toNat + 1) : ¬ Covers (interval :: rest) code := by
  intro covered
  have past : interval.hi < code := by
    rw [UInt32.lt_iff_toNat_lt]
    omega
  obtain ⟨later, member, inside⟩ := (covers_tail_iff canonical.ordered).mpr ⟨covered, past⟩
  have apart : interval.Apart later := List.rel_of_pairwise_cons canonical.2 member
  have lo_le := UInt32.le_iff_toNat_le.mp inside.1
  rw [Interval.Apart] at apart
  omega

/-- Of two canonical lists that begin with the same value and hold the same values, the first
interval of one does not go on past that of the other. -/
theorem head_hi_le (canonical : Canonical (interval :: rest)) (same_lo : interval.lo = other.lo)
    (same : ∀ code, Covers (other :: others) code → Covers (interval :: rest) code) :
    other.hi ≤ interval.hi := by
  rw [UInt32.le_iff_toNat_le]
  apply Nat.le_of_not_lt
  intro longer
  have lo_le := UInt32.le_iff_toNat_le.mp (canonical.1 interval List.mem_cons_self)
  have bounded : interval.hi.toNat + 1 < UInt32.size :=
    Nat.lt_of_le_of_lt longer other.hi.toNat_lt_size
  have next : (UInt32.ofNat (interval.hi.toNat + 1)).toNat = interval.hi.toNat + 1 :=
    UInt32.toNat_ofNat_of_lt' bounded
  refine not_covers_succ_hi canonical next (same _ (covers_cons.mpr (Or.inl ?_)))
  rw [Interval.mem_def, UInt32.le_iff_toNat_le, UInt32.le_iff_toNat_le, next, ← same_lo]
  omega

/-- Canonical lists that hold the same values are equal. -/
theorem Canonical.eq_of_covers_iff (leftCanonical : Canonical left) (rightCanonical : Canonical right)
    (same : ∀ code, Covers left code ↔ Covers right code) : left = right := by
  induction left generalizing right with
  | nil =>
    cases right with
    | nil => rfl
    | cons second others =>
      have covered := covers_head others (rightCanonical.1 second List.mem_cons_self)
      exact absurd ((same second.lo).mpr covered) not_covers_nil
  | cons first rest ih =>
    cases right with
    | nil =>
      have covered := covers_head rest (leftCanonical.1 first List.mem_cons_self)
      exact absurd ((same first.lo).mp covered) not_covers_nil
    | cons second others =>
      have firstNonempty := leftCanonical.1 first List.mem_cons_self
      have secondNonempty := rightCanonical.1 second List.mem_cons_self
      have lo_eq : first.lo = second.lo :=
        UInt32.le_antisymm
          (head_lo_le_of_covers leftCanonical.ordered ((same _).mpr (covers_head others secondNonempty)))
          (head_lo_le_of_covers rightCanonical.ordered ((same _).mp (covers_head rest firstNonempty)))
      have hi_eq : first.hi = second.hi :=
        UInt32.le_antisymm
          (head_hi_le rightCanonical lo_eq.symm fun code => (same code).mp)
          (head_hi_le leftCanonical lo_eq fun code => (same code).mpr)
      have rest_eq : rest = others := by
        apply ih (canonical_cons.mp leftCanonical).2.2 (canonical_cons.mp rightCanonical).2.2
        intro code
        rw [covers_tail_iff leftCanonical.ordered, covers_tail_iff rightCanonical.ordered, same,
          hi_eq]
      obtain ⟨firstLo, firstHi⟩ := first
      obtain ⟨secondLo, secondHi⟩ := second
      subst rest_eq lo_eq hi_eq
      rfl

namespace IntervalTable

variable {table other : IntervalTable}

theorem Canonical.lo_le_hi (canonical : table.Canonical) :
    ∀ interval ∈ table.intervals, interval.lo ≤ interval.hi := by
  rw [intervals, List.forall_mem_append]
  exact ⟨canonical.narrow_canonical.1, canonical.wide_canonical.1⟩

theorem Divided.covers_intervals_of_lt (divided : table.Divided) (high : narrowMax < code) :
    Covers table.intervals code ↔ Covers table.wide.toList code := by
  rw [covers_intervals]
  refine or_iff_right ?_
  rintro ⟨interval, member, within⟩
  have low := UInt32.le_trans within.2 (divided.narrow_le interval member)
  exact UInt32.lt_irrefl _ (UInt32.lt_of_lt_of_le high low)

theorem Divided.covers_narrow_iff (divided : table.Divided) :
    Covers table.narrow code ↔ Covers table.intervals code ∧ code ≤ narrowMax := by
  constructor
  · intro covered
    obtain ⟨interval, member, within⟩ := covered
    have low := UInt32.le_trans within.2 (divided.narrow_le interval member)
    exact ⟨(divided.covers_intervals_of_le low).mpr ⟨interval, member, within⟩, low⟩
  · intro ⟨covered, low⟩
    exact (divided.covers_intervals_of_le low).mp covered

theorem Divided.covers_wide_iff (divided : table.Divided) :
    Covers table.wide.toList code ↔ Covers table.intervals code ∧ narrowMax < code := by
  constructor
  · intro covered
    obtain ⟨interval, member, within⟩ := covered
    have high := UInt32.lt_of_lt_of_le (divided.lt_wide interval member) within.1
    exact ⟨(divided.covers_intervals_of_lt high).mpr ⟨interval, member, within⟩, high⟩
  · intro ⟨covered, high⟩
    exact (divided.covers_intervals_of_lt high).mp covered

/-- Canonical tables that hold the same values are equal, view by view. -/
theorem Canonical.eq_of_covers_iff (canonical : table.Canonical) (otherCanonical : other.Canonical)
    (same : ∀ code, Covers table.intervals code ↔ Covers other.intervals code) : table = other := by
  have narrow_eq : table.narrow = other.narrow := by
    apply canonical.narrow_canonical.eq_of_covers_iff otherCanonical.narrow_canonical
    intro code
    rw [canonical.covers_narrow_iff, otherCanonical.covers_narrow_iff, same]
  have wide_eq : table.wide = other.wide := by
    apply Array.toList_inj.mp
    apply canonical.wide_canonical.eq_of_covers_iff otherCanonical.wide_canonical
    intro code
    rw [canonical.covers_wide_iff, otherCanonical.covers_wide_iff, same]
  obtain ⟨narrow, wide⟩ := table
  obtain ⟨otherNarrow, otherWide⟩ := other
  subst narrow_eq wide_eq
  rfl

theorem Canonical.split_runs_eq (canonical : table.Canonical) {set : CodeSet}
    (mem_iff : ∀ code, code ∈ set ↔ Covers table.intervals code) : split set.runs = table := by
  apply (canonical_split set.canonical_runs).eq_of_covers_iff canonical
  intro code
  simp [mem_iff]

end IntervalTable
end UnicodeIdentifier
