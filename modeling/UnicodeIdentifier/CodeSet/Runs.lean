import UnicodeIdentifier.CodeSet

/-!
# Maximal runs of a set

The members of a set are taken in ascending order.  A member that follows the last run directly
makes that run longer, any other member begins a run of its own.  The result is the list of maximal
intervals of the set, ascending, with a gap between any two.
-/

namespace UnicodeIdentifier
namespace CodeSet

/-- Take one more member into the runs found so far, which are listed latest first.  The member is
greater than all before it, so the word after the end of the last run does not wrap around. -/
def extendRuns (runs : List Interval) (code : UInt32) : List Interval :=
  match runs with
  | [] => [Interval.point code]
  | last :: earlier =>
    if last.hi + 1 = code then ⟨last.lo, code⟩ :: earlier
    else Interval.point code :: last :: earlier

/-- The maximal intervals of the set, ascending. -/
def runs (set : CodeSet) : List Interval :=
  (set.codes.foldl extendRuns []).reverse

end CodeSet
end UnicodeIdentifier
