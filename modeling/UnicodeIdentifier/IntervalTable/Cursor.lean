import UnicodeIdentifier.IntervalTable

/-!
# Walking through a table

A cursor stands somewhere in the two views of a table and hands out the intervals that are left,
those of the narrow view first.  Every step is made of single advances; a cursor that has run out
stays where it is.
-/

namespace UnicodeIdentifier

/-- The intervals still to come, by view. -/
structure Cursor where
  /-- What is left of the narrow view. -/
  narrow : List Interval
  /-- What is left of the wide view. -/
  wide : List Interval
deriving DecidableEq

/-- A cursor before the first interval of the table. -/
def IntervalTable.cursor (table : IntervalTable) : Cursor := ⟨table.narrow, table.wide.toList⟩

namespace Cursor

/-- The intervals still to come as one list. -/
def remaining (cursor : Cursor) : List Interval := cursor.narrow ++ cursor.wide

/-- The number of intervals still to come. -/
def size (cursor : Cursor) : Nat := cursor.narrow.length + cursor.wide.length

/-- Hand out the next interval, crossing into the wide view when the narrow one is used up. -/
def next? : Cursor → Option (Interval × Cursor)
  | ⟨interval :: narrow, wide⟩ => some (interval, ⟨narrow, wide⟩)
  | ⟨[], interval :: wide⟩ => some (interval, ⟨[], wide⟩)
  | ⟨[], []⟩ => none

theorem size_of_next? {cursor after : Cursor} {interval : Interval}
    (advance : cursor.next? = some (interval, after)) : after.size + 1 = cursor.size := by
  match cursor, advance with
  | ⟨_ :: _, _⟩, rfl => simp only [size, List.length_cons]; omega
  | ⟨[], _ :: _⟩, rfl => simp only [size, List.length_cons, List.length_nil]; omega

/-- Hand out the next interval, if there is one. -/
def next (cursor : Cursor) : Option Interval × Cursor :=
  match cursor.next? with
  | some (interval, after) => (some interval, after)
  | none => (none, cursor)

/-- Skip so many intervals, then hand out the next. -/
def nth : Nat → Cursor → Option Interval × Cursor
  | 0, cursor => cursor.next
  | skipped + 1, cursor =>
    match cursor.next? with
    | some (_, after) => nth skipped after
    | none => (none, cursor)

/-- Advance to the first interval that passes the test and hand it out. -/
def find (test : Interval → Bool) (cursor : Cursor) : Option Interval × Cursor :=
  match _ : cursor.next? with
  | some (interval, after) => if test interval then (some interval, after) else find test after
  | none => (none, cursor)
termination_by cursor.size
decreasing_by have := size_of_next? ‹_ = some _›; omega

/-- Hand out the next intervals, at most so many; `taken` holds those already handed out, latest
first. -/
def takeOnto (taken : List Interval) : Nat → Cursor → List Interval × Cursor
  | 0, cursor => (taken.reverse, cursor)
  | limit + 1, cursor =>
    match cursor.next? with
    | some (interval, after) => takeOnto (interval :: taken) limit after
    | none => (taken.reverse, cursor)

/-- Hand out the next intervals, at most so many. -/
def take (limit : Nat) (cursor : Cursor) : List Interval × Cursor := takeOnto [] limit cursor

/-- Fold all intervals still to come, leaving a cursor that has run out. -/
def drain {State : Type} (combine : State → Interval → State) (state : State) (cursor : Cursor) :
    State × Cursor :=
  match _ : cursor.next? with
  | some (interval, after) => drain combine (combine state interval) after
  | none => (state, cursor)
termination_by cursor.size
decreasing_by have := size_of_next? ‹_ = some _›; omega

/-- Use up the cursor and count what was left. -/
def count (cursor : Cursor) : Nat × Cursor := drain (fun seen _ => seen + 1) 0 cursor

/-- Use up the cursor and hand out what came last. -/
def last (cursor : Cursor) : Option Interval × Cursor :=
  drain (fun _ interval => some interval) none cursor

/-- A step of a walk. -/
inductive Step where
  | next
  | nth (skipped : Nat)
  | sizeHint
  | find (code : UInt32)
  | take (limit : Nat)
  | count
  | last

/-- What a step hands out. -/
inductive Answer where
  | found (interval : Option Interval)
  | bounds (lower upper : Nat)
  | intervals (taken : List Interval)
  | count (seen : Nat)
deriving DecidableEq

/-- Make one step.  The search of `Step.find` stops at the first interval that ends at or above the
value. -/
def step (cursor : Cursor) : Step → Answer × Cursor
  | .next => cursor.next.map .found id
  | .nth skipped => (cursor.nth skipped).map .found id
  | .sizeHint => (.bounds cursor.size cursor.size, cursor)
  | .find code => (cursor.find fun interval => code ≤ interval.hi).map .found id
  | .take limit => (cursor.take limit).map .intervals id
  | .count => cursor.count.map .count id
  | .last => cursor.last.map .found id

/-- The answers of a sequence of steps, and where it leaves the cursor. -/
def walk (cursor : Cursor) : List Step → List Answer × Cursor
  | [] => ([], cursor)
  | step :: steps =>
    let (answer, after) := cursor.step step
    let (answers, final) := after.walk steps
    (answer :: answers, final)

end Cursor
end UnicodeIdentifier
