import UnicodeIdentifier.Interval

/-!
# Interval tables

A table stores intervals of code values in two views.  The narrow view holds those of the Latin-1
block, which are few and are scanned in order; the wide view holds the others and is searched by
halving.  A list of intervals is divided between the views at the end of the block.
-/

namespace UnicodeIdentifier

/-- The last code point of the Latin-1 block, where the narrow view ends. -/
def narrowMax : UInt32 := 0xFF

/-- Intervals of code values, divided at `narrowMax`. -/
structure IntervalTable where
  /-- The intervals at or below `narrowMax`. -/
  narrow : List Interval
  /-- The intervals above `narrowMax`. -/
  wide : Array Interval
deriving DecidableEq

namespace IntervalTable

/-- All intervals, those of the narrow view first. -/
def intervals (table : IntervalTable) : List Interval := table.narrow ++ table.wide.toList

/-- The number of intervals in both views. -/
def size (table : IntervalTable) : Nat := table.narrow.length + table.wide.size

/-- Each view lies on its side of the boundary. -/
structure Divided (table : IntervalTable) : Prop where
  narrow_le : ∀ interval ∈ table.narrow, interval.hi ≤ narrowMax
  lt_wide : ∀ interval ∈ table.wide.toList, narrowMax < interval.lo

/-- Each view is ordered and lies on its side of the boundary. -/
structure WellFormed (table : IntervalTable) : Prop extends table.Divided where
  narrow_ordered : Ordered table.narrow
  wide_ordered : Ordered table.wide.toList

/-- Each view is canonical and lies on its side of the boundary. -/
structure Canonical (table : IntervalTable) : Prop extends table.Divided where
  narrow_canonical : UnicodeIdentifier.Canonical table.narrow
  wide_canonical : UnicodeIdentifier.Canonical table.wide.toList

/-- Look through ascending intervals, stopping at the first that begins past the value. -/
def scan (code : UInt32) : List Interval → Bool
  | [] => false
  | interval :: rest =>
    if code < interval.lo then false
    else if code ≤ interval.hi then true
    else scan code rest

/-- Search the `count` ascending intervals that follow the first `base`, halving them at each
step. -/
def search (intervals : Array Interval) (code : UInt32) (base count : Nat)
    (bounded : base + count ≤ intervals.size) : Bool :=
  if empty : count = 0 then false
  else
    let half := count / 2
    have inside : base + half < intervals.size := by omega
    let middle := intervals[base + half]
    if code < middle.lo then search intervals code base half (by omega)
    else if middle.hi < code then
      search intervals code (base + half + 1) (count - half - 1) (by omega)
    else true
termination_by count

/-- Whether the value lies in one of the table's intervals. -/
def contains (table : IntervalTable) (code : UInt32) : Bool :=
  if code ≤ narrowMax then scan code table.narrow
  else search table.wide code 0 table.wide.size (by omega)

/-- What the narrow view keeps of an interval.  The upper end is looked at first, so an interval
that ends at or below the boundary is kept as it is even when its lower end lies above. -/
def narrowPart? (interval : Interval) : Option Interval :=
  if interval.hi ≤ narrowMax then some interval
  else if narrowMax < interval.lo then none
  else some ⟨interval.lo, narrowMax⟩

/-- What the wide view keeps of an interval. -/
def widePart? (interval : Interval) : Option Interval :=
  if interval.hi ≤ narrowMax then none
  else if narrowMax < interval.lo then some interval
  else some ⟨narrowMax + 1, interval.hi⟩

/-- The table of the intervals, in their order; one that crosses the boundary is cut in two. -/
def split (intervals : List Interval) : IntervalTable where
  narrow := intervals.filterMap narrowPart?
  wide := (intervals.filterMap widePart?).toArray

end IntervalTable
end UnicodeIdentifier
