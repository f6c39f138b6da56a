import UnicodeIdentifier.Proofs.IntervalTable.Join
import UnicodeIdentifier.Proofs.IntervalTable.Walk

/-!
# Longest runs of the values that a table contains

A longest run of values that pass a test cannot be made longer at either end, so two of them that share
a value are the same.  The longest runs of what a canonical list holds are therefore the intervals of
the list.  Those of what a canonical table contains are its intervals, where two that touch at the
boundary count as one.
-/

namespace UnicodeIdentifier

variable {test : UInt32 → Bool} {interval other run : Interval} {intervals runs others : List Interval}
  {code : UInt32}

/-- All values of the run pass the test, and those next to it on either side do not. -/
structure IsLongestRun (test : UInt32 → Bool) (run : Interval) : Prop where
  nonempty : run.lo ≤ run.hi
  passes : ∀ code ∈ run, test code = true
  fails_below : ∀ code : UInt32, code.toNat + 1 = run.lo.toNat → test code = false
  fails_above : ∀ code : UInt32, code.toNat = run.hi.toNat + 1 → test code = false

/-- The list of all longest runs, in ascending order. -/
structure ListsRuns (test : UInt32 → Bool) (runs : List Interval) : Prop where
  ascending : runs.Pairwise Interval.Before
  mem_iff : ∀ run, run ∈ runs ↔ IsLongestRun test run

theorem exists_toNat_eq {value : Nat} (bounded : value ≤ code.toNat) :
    ∃ other : UInt32, other.toNat = value :=
  ⟨UInt32.ofNat value,
    UInt32.toNat_ofNat_of_lt' (Nat.lt_of_le_of_lt bounded code.toNat_lt_size)⟩

theorem Interval.mem_iff_toNat :
    code ∈ interval ↔ interval.lo.toNat ≤ code.toNat ∧ code.toNat ≤ interval.hi.toNat := by
  rw [Interval.mem_def, UInt32.le_iff_toNat_le, UInt32.le_iff_toNat_le]

namespace IsLongestRun

/-- A value next to a longest run lies in no other longest run. -/
theorem not_mem_of_adjacent (isRun : IsLongestRun test run) (isOther : IsLongestRun test other)
    (adjacent : code.toNat + 1 = run.lo.toNat ∨ code.toNat = run.hi.toNat + 1) : code ∉ other := by
  intro inside
  have passes := isOther.passes code inside
  rcases adjacent with below | above
  · rw [isRun.fails_below code below] at passes
    cases passes
  · rw [isRun.fails_above code above] at passes
    cases passes

theorem lo_le (isRun : IsLongestRun test run) (isOther : IsLongestRun test other)
    (inRun : code ∈ run) (inOther : code ∈ other) : run.lo ≤ other.lo := by
  rw [Interval.mem_iff_toNat] at inRun inOther
  rw [UInt32.le_iff_toNat_le]
  apply Nat.le_of_not_lt
  intro later
  obtain ⟨below, below_eq⟩ := exists_toNat_eq (Nat.sub_le run.lo.toNat 1)
  have adjacent : below.toNat + 1 = run.lo.toNat := by omega
  apply isRun.not_mem_of_adjacent isOther (Or.inl adjacent)
  rw [Interval.mem_iff_toNat]
  omega

theorem hi_le (isRun : IsLongestRun test run) (isOther : IsLongestRun test other)
    (inRun : code ∈ run) (inOther : code ∈ other) : other.hi ≤ run.hi := by
  rw [Interval.mem_iff_toNat] at inRun inOther
  rw [UInt32.le_iff_toNat_le]
  apply Nat.le_of_not_lt
  intro earlier
  obtain ⟨above, above_eq⟩ := exists_toNat_eq (Nat.succ_le_of_lt earlier)
  apply isRun.not_mem_of_adjacent isOther (Or.inr above_eq)
  rw [Interval.mem_iff_toNat]
  omega

/-- Longest runs that share a value are equal. -/
theorem eq_of_mem (isRun : IsLongestRun test run) (isOther : IsLongestRun test other)
    (inRun : code ∈ run) (inOther : code ∈ other) : run = other := by
  have lo_eq := UInt32.le_antisymm (isRun.lo_le isOther inRun inOther)
    (isOther.lo_le isRun inOther inRun)
  have hi_eq := UInt32.le_antisymm (isOther.hi_le isRun inOther inRun)
    (isRun.hi_le isOther inRun inOther)
  obtain ⟨runLo, runHi⟩ := run
  obtain ⟨otherLo, otherHi⟩ := other
  subst lo_eq hi_eq
  rfl

end IsLongestRun

namespace ListsRuns

theorem not_before_self (lists : ListsRuns test runs) (member : run ∈ runs) : ¬ run.Before run := by
  intro before
  exact UInt32.not_le.mpr before ((lists.mem_iff run).mp member).nonempty

theorem nodup (lists : ListsRuns test runs) : runs.Nodup := by
  refine lists.ascending.imp_of_mem fun member _ before same => ?_
  exact lists.not_before_self member (same ▸ before)

/-- There is only one list of the longest runs. -/
theorem unique (lists : ListsRuns test runs) (othersList : ListsRuns test others) :
    runs = others := by
  have same : runs.Perm others := by
    refine (List.perm_ext_iff_of_nodup lists.nodup othersList.nodup).mpr fun run => ?_
    rw [lists.mem_iff, othersList.mem_iff]
  refine same.eq_of_pairwise (fun run other member otherMember before after => ?_)
    lists.ascending othersList.ascending
  have nonempty := ((othersList.mem_iff other).mp otherMember).nonempty
  exact absurd (Interval.Before.trans before nonempty after) (lists.not_before_self member)

end ListsRuns

namespace Canonical

theorem eq_or_apart (canonical : Canonical intervals) (member : interval ∈ intervals)
    (otherMember : other ∈ intervals) :
    interval = other ∨ interval.Apart other ∨ other.Apart interval := by
  obtain ⟨index, inside, rfl⟩ := List.getElem_of_mem member
  obtain ⟨otherIndex, otherInside, rfl⟩ := List.getElem_of_mem otherMember
  have apart := List.pairwise_iff_getElem.mp canonical.2
  rcases Nat.lt_trichotomy index otherIndex with earlier | rfl | later
  · exact Or.inr (Or.inl (apart index otherIndex inside otherInside earlier))
  · exact Or.inl rfl
  · exact Or.inr (Or.inr (apart otherIndex index otherInside inside later))

theorem not_covers_of_adjacent (canonical : Canonical intervals) (member : interval ∈ intervals)
    (adjacent : code.toNat + 1 = interval.lo.toNat ∨ code.toNat = interval.hi.toNat + 1) :
    ¬ Covers intervals code := by
  rintro ⟨other, otherMember, within⟩
  have nonempty := canonical.1 interval member
  rw [UInt32.le_iff_toNat_le] at nonempty
  rw [Interval.mem_iff_toNat] at within
  rcases canonical.eq_or_apart member otherMember with rfl | before | after
  · omega
  · rw [Interval.Apart] at before
    omega
  · rw [Interval.Apart] at after
    omega

theorem isLongestRun (canonical : Canonical intervals)
    (test_iff : ∀ code, test code = true ↔ Covers intervals code) (member : interval ∈ intervals) :
    IsLongestRun test interval where
  nonempty := canonical.1 interval member
  passes code inside := (test_iff code).mpr ⟨interval, member, inside⟩
  fails_below code below := Bool.eq_false_iff.mpr
    (mt (test_iff code).mp (canonical.not_covers_of_adjacent member (Or.inl below)))
  fails_above code above := Bool.eq_false_iff.mpr
    (mt (test_iff code).mp (canonical.not_covers_of_adjacent member (Or.inr above)))

/-- The intervals of a canonical list are the longest runs of the values that it holds. -/
theorem listsRuns (canonical : Canonical intervals)
    (test_iff : ∀ code, test code = true ↔ Covers intervals code) : ListsRuns test intervals := by
  refine ⟨canonical.ordered.2, fun run => ⟨canonical.isLongestRun test_iff, fun isRun => ?_⟩⟩
  have begins : run.lo ∈ run := ⟨UInt32.le_refl _, isRun.nonempty⟩
  obtain ⟨interval, member, inside⟩ := (test_iff run.lo).mp (isRun.passes run.lo begins)
  have isInterval := canonical.isLongestRun test_iff member
  exact isRun.eq_of_mem isInterval begins inside ▸ member

end Canonical

namespace IntervalTable

variable {table : IntervalTable}

/-- Joining the views of a canonical table gives the runs of the set that it holds. -/
theorem Canonical.join_eq_runs (canonical : table.Canonical) :
    table.join = (CodeSet.ofIntervals table.intervals).runs := by
  have split_eq : split (CodeSet.ofIntervals table.intervals).runs = table :=
    canonical.split_runs_eq fun _ => CodeSet.mem_ofIntervals
  calc
    table.join = (split (CodeSet.ofIntervals table.intervals).runs).join := by rw [split_eq]
    _ = (CodeSet.ofIntervals table.intervals).runs := join_split (CodeSet.canonical_runs _)

theorem Canonical.listsRuns_join (canonical : table.Canonical) :
    ListsRuns table.contains table.join := by
  rw [canonical.join_eq_runs]
  apply (CodeSet.canonical_runs _).listsRuns
  intro code
  simp [contains_eq_true_iff canonical.wellFormed]

theorem Canonical.covers_narrowMax_iff (canonical : table.Canonical) :
    Covers table.narrow narrowMax ↔ ∃ last ∈ table.narrow, last.hi = narrowMax := by
  constructor
  · intro ⟨last, member, within⟩
    exact ⟨last, member, UInt32.le_antisymm (canonical.narrow_le last member) within.2⟩
  · intro ⟨last, member, ends⟩
    have nonempty := canonical.narrow_canonical.1 last member
    rw [ends] at nonempty
    exact ⟨last, member, nonempty, UInt32.le_of_eq ends.symm⟩

theorem Canonical.covers_narrowMax_succ_iff (canonical : table.Canonical) :
    Covers table.wide.toList (narrowMax + 1) ↔
      ∃ first ∈ table.wide.toList, first.lo = narrowMax + 1 := by
  constructor
  · intro ⟨first, member, within⟩
    have past := narrowMax_succ_le.mpr (canonical.lt_wide first member)
    exact ⟨first, member, UInt32.le_antisymm within.1 past⟩
  · intro ⟨first, member, begins⟩
    have nonempty := canonical.wide_canonical.1 first member
    rw [begins] at nonempty
    exact ⟨first, member, UInt32.le_of_eq begins, nonempty⟩

theorem toNat_narrowMax_succ : (narrowMax + 1).toNat = narrowMax.toNat + 1 := rfl

/-- A table contains the value below one of its intervals only where the wide view begins with the
interval and the narrow view ends with the value. -/
theorem Canonical.contains_below_iff (canonical : table.Canonical)
    (member : interval ∈ table.intervals) (below : code.toNat + 1 = interval.lo.toNat) :
    table.contains code = true ↔
      interval.lo = narrowMax + 1 ∧ ∃ last ∈ table.narrow, last.hi = narrowMax := by
  have nonempty := UInt32.le_iff_toNat_le.mp (canonical.lo_le_hi interval member)
  rw [contains_eq_true_iff canonical.wellFormed, ← canonical.covers_narrowMax_iff,
    ← UInt32.toNat_inj, toNat_narrowMax_succ]
  rcases List.mem_append.mp member with isNarrow | isWide
  · have ends := UInt32.le_iff_toNat_le.mp (canonical.narrow_le interval isNarrow)
    rw [canonical.covers_intervals_of_le (UInt32.le_iff_toNat_le.mpr (by omega))]
    exact iff_of_false (canonical.narrow_canonical.not_covers_of_adjacent isNarrow (Or.inl below))
      fun ⟨begins, _⟩ => by omega
  · have begins := UInt32.lt_iff_toNat_lt.mp (canonical.lt_wide interval isWide)
    by_cases isLast : code = narrowMax
    · subst isLast
      rw [canonical.covers_intervals_of_le (UInt32.le_refl _), and_iff_right below.symm]
    · have different := mt UInt32.toNat_inj.mp isLast
      rw [canonical.covers_intervals_of_lt (UInt32.lt_iff_toNat_lt.mpr (by omega))]
      exact iff_of_false (canonical.wide_canonical.not_covers_of_adjacent isWide (Or.inl below))
        fun ⟨first, _⟩ => by omega

theorem Canonical.contains_above_iff (canonical : table.Canonical)
    (member : interval ∈ table.intervals) (above : code.toNat = interval.hi.toNat + 1) :
    table.contains code = true ↔
      interval.hi = narrowMax ∧ ∃ first ∈ table.wide.toList, first.lo = narrowMax + 1 := by
  have nonempty := UInt32.le_iff_toNat_le.mp (canonical.lo_le_hi interval member)
  rw [contains_eq_true_iff canonical.wellFormed, ← canonical.covers_narrowMax_succ_iff,
    ← UInt32.toNat_inj]
  rcases List.mem_append.mp member with isNarrow | isWide
  · have ends := UInt32.le_iff_toNat_le.mp (canonical.narrow_le interval isNarrow)
    by_cases isFirst : code = narrowMax + 1
    · subst isFirst
      have past : narrowMax < narrowMax + 1 := narrowMax_succ_le.mp (UInt32.le_refl _)
      rw [toNat_narrowMax_succ] at above
      rw [canonical.covers_intervals_of_lt past, and_iff_right (Nat.succ.inj above.symm)]
    · have different := mt UInt32.toNat_inj.mp isFirst
      rw [toNat_narrowMax_succ] at different
      rw [canonical.covers_intervals_of_le (UInt32.le_iff_toNat_le.mpr (by omega))]
      exact iff_of_false (canonical.narrow_canonical.not_covers_of_adjacent isNarrow (Or.inr above))
        fun ⟨last, _⟩ => by omega
  · have begins := UInt32.lt_iff_toNat_lt.mp (canonical.lt_wide interval isWide)
    rw [canonical.covers_intervals_of_lt (UInt32.lt_iff_toNat_lt.mpr (by omega))]
    exact iff_of_false (canonical.wide_canonical.not_covers_of_adjacent isWide (Or.inr above))
      fun ⟨last, _⟩ => by omega

theorem take_size_cursor (table : IntervalTable) :
    (table.cursor.take table.size).1 = table.intervals := by
  have whole : table.size = table.intervals.length := List.length_append.symm
  rw [(Cursor.take_eq _ _).1, whole]
  exact List.take_length

/-- Joining fuses the two intervals that touch at the boundary, if there are such, and nothing else. -/
theorem join_cases (table : IntervalTable) :
    table.join = table.intervals ∨
      ∃ low last first high, table.narrow = low ++ [last] ∧ table.wide.toList = first :: high ∧
        last.hi = narrowMax ∧ first.lo = narrowMax + 1 ∧
        table.join = low ++ ⟨last.lo, first.hi⟩ :: high := by
  rw [join]
  split
  · rename_i last first high isLast isCons
    split
    · rename_i touching
      have isConcat : table.narrow = table.narrow.dropLast ++ [last] :=
        (List.dropLast_append_getLast? last isLast).symm
      exact Or.inr ⟨_, last, first, high, isConcat, isCons, touching.1, touching.2, rfl⟩
    · exact Or.inl rfl
  · exact Or.inl rfl

/-- The longest runs of the values that a canonical table contains are, in ascending order, the
intervals that its cursor hands out, except that an interval that ends with the narrow view and one
that begins with the wide view make one run.  So the value below an interval and the value above it are
not contained, unless another interval ends or begins there across the boundary. -/
theorem listsRuns_contains_iff (canonical : table.Canonical) :
    (∀ runs, ListsRuns table.contains runs ↔ runs = table.join) ∧
    (table.join = (table.cursor.take table.size).1 ∨
      ∃ low last first high, table.narrow = low ++ [last] ∧ table.wide.toList = first :: high ∧
        last.hi = 0xFF ∧ first.lo = 0x100 ∧
        (table.cursor.take table.size).1 = low ++ last :: first :: high ∧
        table.join = low ++ ⟨last.lo, first.hi⟩ :: high) ∧
    (∀ interval ∈ (table.cursor.take table.size).1, ∀ code : UInt32,
      (code.toNat + 1 = interval.lo.toNat → (table.contains code = true ↔
        interval.lo = 0x100 ∧ ∃ last ∈ table.narrow, last.hi = 0xFF)) ∧
      (code.toNat = interval.hi.toNat + 1 → (table.contains code = true ↔
        interval.hi = 0xFF ∧ ∃ first ∈ table.wide.toList, first.lo = 0x100))) := by
  rw [take_size_cursor]
  refine ⟨fun runs => ⟨fun lists => ?_, ?_⟩, ?_, fun interval member code => ?_⟩
  · exact lists.unique canonical.listsRuns_join
  · rintro rfl
    exact canonical.listsRuns_join
  · rcases table.join_cases with unfused | ⟨low, last, first, high, isConcat, isCons, ends, begins, fused⟩
    · exact Or.inl unfused
    · refine Or.inr ⟨low, last, first, high, isConcat, isCons, ends, begins, ?_, fused⟩
      rw [intervals, isConcat, isCons, List.append_assoc, List.singleton_append]
  · exact ⟨canonical.contains_below_iff member, canonical.contains_above_iff member⟩

/-- Letters whose intervals touch at the boundary. -/
def touchingLetters : IntervalTable :=
  ⟨[⟨0x41, 0x5A⟩, ⟨0xF8, 0xFF⟩], #[⟨0x100, 0x2C1⟩, ⟨0x2C6, 0x2D1⟩]⟩

/-- The four intervals of the letters make three longest runs, and past the end of the second interval
the letters go on. -/
theorem listsRuns_contains_touchingLetters : touchingLetters.Canonical ∧
    ListsRuns touchingLetters.contains [⟨0x41, 0x5A⟩, ⟨0xF8, 0x2C1⟩, ⟨0x2C6, 0x2D1⟩] ∧
    touchingLetters.contains 0x5B = false ∧ touchingLetters.contains 0x100 = true := by
  have canonical : touchingLetters.Canonical :=
    ⟨⟨by decide, by decide⟩, by decide, by decide⟩
  obtain ⟨lists_iff, _, neighbours⟩ := listsRuns_contains_iff canonical
  obtain ⟨_, above_first⟩ := neighbours ⟨0x41, 0x5A⟩ (by decide) 0x5B
  obtain ⟨_, above_second⟩ := neighbours ⟨0xF8, 0xFF⟩ (by decide) 0x100
  refine ⟨canonical, (lists_iff _).mpr rfl, ?_, ?_⟩
  · rw [Bool.eq_false_iff, ne_eq, above_first rfl]
    decide
  · rw [above_second rfl]
    decide

end IntervalTable
end UnicodeIdentifier
