import UnicodeIdentifier.Proofs.IntervalTable.Members

/-!
# The normal form of a set

Lists of intervals hold sets of values, and many lists hold the same set.  Exactly one of them has no
empty interval and a gap between any two neighbours: the runs of the set.  Taking the runs of the
set that a list holds therefore changes a list if and only if it is not of this form.
-/

namespace UnicodeIdentifier
namespace CodeSet

variable {set : CodeSet} {intervals : List Interval}

/-- Among the canonical lists only the runs of a set hold the members of the set. -/
theorem eq_runs_iff_canonical :
    intervals = set.runs ↔ Canonical intervals ∧ ∀ code, code ∈ set ↔ Covers intervals code := by
  constructor
  · intro same
    subst same
    exact ⟨set.canonical_runs, fun code => covers_runs.symm⟩
  · intro ⟨canonical, mem_iff⟩
    apply canonical.eq_of_covers_iff set.canonical_runs
    intro code
    rw [covers_runs, mem_iff]

/-- The canonical lists are those that the union of their intervals gives back. -/
theorem runs_ofIntervals_eq_iff : (ofIntervals intervals).runs = intervals ↔ Canonical intervals := by
  rw [eq_comm, eq_runs_iff_canonical]
  exact and_iff_left fun code => mem_ofIntervals

/-- A list consists of the runs of a set exactly if no interval is empty, each ends at least two below
the beginning of the next, and the intervals hold the members of the set.  It then consists of the
runs of what it holds. -/
theorem eq_runs_iff (set : CodeSet) (intervals : List Interval) :
    (intervals = set.runs ↔
      (∀ interval ∈ intervals, interval.lo ≤ interval.hi) ∧
      intervals.IsChain (fun interval next => interval.hi.toNat + 1 < next.lo.toNat) ∧
      ∀ code, code ∈ set ↔ ∃ interval ∈ intervals, interval.lo ≤ code ∧ code ≤ interval.hi) ∧
    ((ofIntervals intervals).runs = intervals ↔
      (∀ interval ∈ intervals, interval.lo ≤ interval.hi) ∧
      intervals.IsChain (fun interval next => interval.hi.toNat + 1 < next.lo.toNat)) := by
  constructor
  · rw [eq_runs_iff_canonical, canonical_iff_isChain, and_assoc]
    exact Iff.rfl
  · rw [runs_ofIntervals_eq_iff, canonical_iff_isChain]
    exact Iff.rfl

example : (ofList [0xFFFFFFFF, 1, 0, 0xFFFFFFFE, 3]).runs =
    [⟨0, 1⟩, ⟨3, 3⟩, ⟨0xFFFFFFFE, 0xFFFFFFFF⟩] := by
  cbv

end CodeSet
end UnicodeIdentifier
