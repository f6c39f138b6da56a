import UnicodeIdentifier.IntervalTable.Cursor

/-!
# Walks along one list

What a cursor hands out depends on the intervals still to come as one list, and not on where this list
is divided between the views.  A walk through a table therefore goes as a walk along the list of all
its intervals, from a position that moves on and never comes back.
-/

namespace UnicodeIdentifier

open Cursor (Answer Step)

variable {intervals : List Interval}

/-- The answer hands out no interval and finds none left. -/
def Cursor.Answer.IsEmpty : Answer → Prop
  | .found interval => interval = none
  | .bounds lower upper => lower = 0 ∧ upper = 0
  | .intervals taken => taken = []
  | .count seen => seen = 0

/-- A position in a list of intervals. -/
structure Position (intervals : List Interval) where
  /-- The number of intervals that have been passed. -/
  passed : Nat
  /-- There is no position past the end. -/
  passed_le : passed ≤ intervals.length

namespace Position

/-- The position before the first interval. -/
def start (intervals : List Interval) : Position intervals := ⟨0, Nat.zero_le _⟩

/-- The number of intervals ahead. -/
def left (position : Position intervals) : Nat := intervals.length - position.passed

/-- The intervals ahead. -/
def ahead (position : Position intervals) : List Interval := intervals.drop position.passed

/-- Go on past so many intervals, or to the end if there are fewer. -/
def advance (position : Position intervals) (count : Nat) : Position intervals :=
  ⟨min (position.passed + count) intervals.length, Nat.min_le_right _ _⟩

/-- Make one step in the list. -/
def step (position : Position intervals) : Step → Answer × Position intervals
  | .next => (.found intervals[position.passed]?, position.advance 1)
  | .nth skipped => (.found intervals[position.passed + skipped]?, position.advance (skipped + 1))
  | .sizeHint => (.bounds position.left position.left, position)
  | .find code =>
    let skipped := position.ahead.findIdx fun interval => code ≤ interval.hi
    (.found intervals[position.passed + skipped]?, position.advance (skipped + 1))
  | .take limit => (.intervals (position.ahead.take limit), position.advance limit)
  | .count => (.count position.left, position.advance position.left)
  | .last => (.found position.ahead.getLast?, position.advance position.left)

/-- The answers of a sequence of steps, and the position that they lead to. -/
def walk (position : Position intervals) : List Step → List Answer × Position intervals
  | [] => ([], position)
  | step :: steps =>
    let (answer, after) := position.step step
    let (answers, final) := after.walk steps
    (answer :: answers, final)

variable {position : Position intervals}

@[simp]
theorem length_ahead (position : Position intervals) : position.ahead.length = position.left :=
  List.length_drop

@[simp]
theorem getElem?_ahead (position : Position intervals) (skipped : Nat) :
    position.ahead[skipped]? = intervals[position.passed + skipped]? :=
  List.getElem?_drop

@[simp]
theorem ahead_advance (position : Position intervals) (count : Nat) :
    (position.advance count).ahead = position.ahead.drop count := by
  simp only [ahead, advance, List.drop_drop]
  rcases Nat.le_total (position.passed + count) intervals.length with inside | past
  · rw [Nat.min_eq_left inside]
  · rw [Nat.min_eq_right past, List.drop_length, List.drop_of_length_le past]

@[simp]
theorem ahead_advance_left (position : Position intervals) :
    (position.advance position.left).ahead = [] := by
  rw [ahead_advance, ← length_ahead, List.drop_length]

theorem step_of_ahead_eq_nil (atEnd : position.ahead = []) (step : Step) :
    (position.step step).1.IsEmpty ∧ (position.step step).2.ahead = [] := by
  have noneLeft : position.left = 0 := by rw [← length_ahead, atEnd, List.length_nil]
  have nothing (skipped : Nat) : intervals[position.passed + skipped]? = none := by
    rw [← getElem?_ahead, atEnd, List.getElem?_nil]
  have stays (count : Nat) : (position.advance count).ahead = [] := by
    rw [ahead_advance, atEnd, List.drop_nil]
  cases step with
  | next => exact ⟨nothing 0, stays 1⟩
  | nth skipped => exact ⟨nothing skipped, stays (skipped + 1)⟩
  | sizeHint => exact ⟨⟨noneLeft, noneLeft⟩, atEnd⟩
  | find code => exact ⟨nothing _, stays _⟩
  | take limit => exact ⟨by rw [step, atEnd, Answer.IsEmpty, List.take_nil], stays limit⟩
  | count => exact ⟨noneLeft, stays position.left⟩
  | last => exact ⟨by rw [step, atEnd, Answer.IsEmpty, List.getLast?_nil], stays position.left⟩

/-- A walk that begins at the end of the list hands out nothing. -/
theorem isEmpty_of_mem_walk (atEnd : position.ahead = []) (steps : List Step) :
    ∀ answer ∈ (position.walk steps).1, answer.IsEmpty := by
  induction steps generalizing position with
  | nil => exact List.forall_mem_nil _
  | cons step steps ih =>
    obtain ⟨isEmpty, stays⟩ := step_of_ahead_eq_nil atEnd step
    exact List.forall_mem_cons.mpr ⟨isEmpty, ih stays⟩

end Position

namespace Cursor

variable {cursor after : Cursor} {interval : Interval}

/-- The next interval is the first of those still to come, in whichever view it stands. -/
theorem remaining_of_next? (advance : cursor.next? = some (interval, after)) :
    cursor.remaining = interval :: after.remaining := by
  match cursor, advance with
  | ⟨_ :: _, _⟩, rfl => rfl
  | ⟨[], _ :: _⟩, rfl => rfl

theorem remaining_eq_nil (noNext : cursor.next? = none) : cursor.remaining = [] := by
  match cursor, noNext with
  | ⟨[], []⟩, rfl => rfl

theorem nth_eq (skipped : Nat) (cursor : Cursor) :
    (cursor.nth skipped).1 = cursor.remaining[skipped]? ∧
      (cursor.nth skipped).2.remaining = cursor.remaining.drop (skipped + 1) := by
  induction skipped generalizing cursor with
  | zero =>
    rw [nth, next]
    cases isNext : cursor.next? with
    | none => simp [remaining_eq_nil isNext]
    | some advance => simp [remaining_of_next? isNext]
  | succ skipped ih =>
    rw [nth]
    cases isNext : cursor.next? with
    | none => simp [remaining_eq_nil isNext]
    | some advance => simpa [remaining_of_next? isNext] using ih advance.2

theorem find_eq (test : Interval → Bool) (cursor : Cursor) :
    (cursor.find test).1 = cursor.remaining.find? test ∧
      (cursor.find test).2.remaining =
        cursor.remaining.drop (cursor.remaining.findIdx test + 1) := by
  fun_induction find test cursor with
  | case1 cursor interval after isNext passes =>
    simp [remaining_of_next? isNext, List.findIdx_cons, passes]
  | case2 cursor interval after isNext fails ih =>
    simpa [remaining_of_next? isNext, List.findIdx_cons, fails] using ih
  | case3 cursor isNone => simp [remaining_eq_nil isNone]

theorem takeOnto_eq (limit : Nat) (taken : List Interval) (cursor : Cursor) :
    (cursor.takeOnto taken limit).1 = taken.reverse ++ cursor.remaining.take limit ∧
      (cursor.takeOnto taken limit).2.remaining = cursor.remaining.drop limit := by
  induction limit generalizing taken cursor with
  | zero => simp [takeOnto]
  | succ limit ih =>
    rw [takeOnto]
    cases isNext : cursor.next? with
    | none => simp [remaining_eq_nil isNext]
    | some advance => simpa [remaining_of_next? isNext] using ih (advance.1 :: taken) advance.2

theorem drain_eq {State : Type} (combine : State → Interval → State) (state : State)
    (cursor : Cursor) :
    (cursor.drain combine state).1 = cursor.remaining.foldl combine state ∧
      (cursor.drain combine state).2.remaining = [] := by
  fun_induction drain combine state cursor with
  | case1 state cursor interval after isNext ih =>
    simpa [remaining_of_next? isNext] using ih
  | case2 state cursor isNone => simp [remaining_eq_nil isNone]

theorem take_eq (limit : Nat) (cursor : Cursor) :
    (cursor.take limit).1 = cursor.remaining.take limit ∧
      (cursor.take limit).2.remaining = cursor.remaining.drop limit :=
  takeOnto_eq limit [] cursor

theorem foldl_some (found : Option Interval) (rest : List Interval) :
    rest.foldl (fun _ interval => some interval) found = rest.getLast?.or found := by
  induction rest generalizing found with
  | nil => rfl
  | cons interval rest ih =>
    rw [List.foldl_cons, ih, List.getLast?_cons]
    cases rest.getLast? with
    | none => rfl
    | some last => rfl

theorem size_eq (cursor : Cursor) : cursor.size = cursor.remaining.length :=
  List.length_append.symm

variable {position : Position intervals}

/-- A step of a cursor answers as the step from its position in the list, and leaves the cursor at the
position that this step leads to. -/
theorem step_eq (stands : cursor.remaining = position.ahead) (step : Step) :
    (cursor.step step).1 = (position.step step).1 ∧
      (cursor.step step).2.remaining = (position.step step).2.ahead := by
  have skip (skipped : Nat) : (cursor.nth skipped).1 = intervals[position.passed + skipped]? ∧
      (cursor.nth skipped).2.remaining = (position.advance (skipped + 1)).ahead := by
    rw [Position.ahead_advance, ← Position.getElem?_ahead, ← stands]
    exact nth_eq skipped cursor
  cases step with
  | next => exact ⟨congrArg Answer.found (skip 0).1, (skip 0).2⟩
  | nth skipped => exact ⟨congrArg Answer.found (skip skipped).1, (skip skipped).2⟩
  | sizeHint =>
    have size_eq_left : cursor.size = position.left := by
      rw [size_eq, stands, Position.length_ahead]
    exact ⟨congrArg (fun size => Answer.bounds size size) size_eq_left, stands⟩
  | find code =>
    obtain ⟨found, after⟩ := find_eq (fun interval => code ≤ interval.hi) cursor
    rw [List.find?_eq_getElem?_findIdx] at found
    rw [stands] at found after
    rw [Position.getElem?_ahead] at found
    rw [← Position.ahead_advance] at after
    exact ⟨congrArg Answer.found found, after⟩
  | take limit =>
    obtain ⟨taken, after⟩ := take_eq limit cursor
    rw [stands] at taken after
    rw [← Position.ahead_advance] at after
    exact ⟨congrArg Answer.intervals taken, after⟩
  | count =>
    obtain ⟨seen, after⟩ := drain_eq (fun seen _ => seen + 1) 0 cursor
    rw [List.foldl_add_const, stands, Nat.zero_add, Nat.one_mul, Position.length_ahead] at seen
    rw [← position.ahead_advance_left] at after
    exact ⟨congrArg Answer.count seen, after⟩
  | last =>
    obtain ⟨found, after⟩ := drain_eq (fun _ interval => some interval) none cursor
    rw [foldl_some, stands, Option.or_none] at found
    rw [← position.ahead_advance_left] at after
    exact ⟨congrArg Answer.found found, after⟩

/-- A walk of a cursor answers as the walk from its position in the list, and ends where this walk
ends. -/
theorem walk_eq (stands : cursor.remaining = position.ahead) (steps : List Step) :
    (cursor.walk steps).1 = (position.walk steps).1 ∧
      (cursor.walk steps).2.remaining = (position.walk steps).2.ahead := by
  induction steps generalizing cursor position with
  | nil => exact ⟨rfl, stands⟩
  | cons step steps ih =>
    obtain ⟨answer_eq, after_stands⟩ := step_eq stands step
    obtain ⟨answers_eq, final_stands⟩ := ih after_stands
    exact ⟨List.cons_eq_cons.mpr ⟨answer_eq, answers_eq⟩, final_stands⟩

theorem remaining_eq_nil_of_next (nothing : (cursor.step .next).1 = .found none) :
    cursor.remaining = [] := by
  have isNone : (cursor.nth 0).1 = none := Answer.found.inj nothing
  rw [(nth_eq 0 cursor).1, List.getElem?_eq_none_iff, Nat.le_zero] at isNone
  exact List.length_eq_zero_iff.mp isNone

end Cursor

namespace IntervalTable

/-- Whatever steps are made, a cursor answers as a walk along the list of all intervals of its table,
and stands where this walk stands.  Its two bounds are both the number of intervals ahead, and after
it has once handed out nothing it never hands out anything again. -/
theorem walk_cursor (table : IntervalTable) (steps : List Step) :
    (table.cursor.walk steps).1 = ((Position.start table.intervals).walk steps).1 ∧
    (table.cursor.walk steps).2.remaining = ((Position.start table.intervals).walk steps).2.ahead ∧
    ((table.cursor.walk steps).2.step .sizeHint).1 =
      .bounds ((Position.start table.intervals).walk steps).2.left
        ((Position.start table.intervals).walk steps).2.left ∧
    (((table.cursor.walk steps).2.step .next).1 = .found none →
      ∀ more, ∀ answer ∈ ((table.cursor.walk steps).2.walk more).1, answer.IsEmpty) := by
  have stands : table.cursor.remaining = (Position.start table.intervals).ahead := rfl
  obtain ⟨answers_eq, final_stands⟩ := Cursor.walk_eq stands steps
  obtain ⟨bounds_eq, _⟩ := Cursor.step_eq final_stands .sizeHint
  refine ⟨answers_eq, final_stands, bounds_eq, fun nothing more => ?_⟩
  have atEnd := final_stands.symm.trans (Cursor.remaining_eq_nil_of_next nothing)
  rw [(Cursor.walk_eq final_stands more).1]
  exact Position.isEmpty_of_mem_walk atEnd more

/-- A walk from the narrow view into the wide one, where the cursor runs out. -/
theorem walk_cursor_across :
    ((IntervalTable.mk [⟨0x41, 0x5A⟩, ⟨0xF8, 0xFF⟩] #[⟨0x100, 0x2C1⟩]).cursor.walk
        [.nth 1, .sizeHint, .take 2]).1 =
      [.found (some ⟨0xF8, 0xFF⟩), .bounds 1 1, .intervals [⟨0x100, 0x2C1⟩]] ∧
    ∀ more, ∀ answer ∈ (((IntervalTable.mk [⟨0x41, 0x5A⟩, ⟨0xF8, 0xFF⟩]
        #[⟨0x100, 0x2C1⟩]).cursor.walk [.nth 1, .sizeHint, .take 2]).2.walk more).1,
      answer.IsEmpty := by
  obtain ⟨answers_eq, _, _, exhausted⟩ := walk_cursor
    ⟨[⟨0x41, 0x5A⟩, ⟨0xF8, 0xFF⟩], #[⟨0x100, 0x2C1⟩]⟩ [.nth 1, .sizeHint, .take 2]
  exact ⟨answers_eq.trans rfl, exhausted rfl⟩

end IntervalTable
end UnicodeIdentifier
