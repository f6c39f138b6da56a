/-!
# Closed intervals of code values

An interval is a pair of 32-bit words and stands for the values between them, both ends included.
Its lower end may lie above its upper end; such an interval holds no value.
-/

namespace UnicodeIdentifier

/-- The code values from `lo` to `hi`, both included. -/
structure Interval where
  /-- Least value of the interval. -/
  lo : UInt32
  /-- Greatest value of the interval. -/
  hi : UInt32
deriving DecidableEq, Repr

namespace Interval

instance : Membership UInt32 Interval where
  mem interval code := interval.lo ≤ code ∧ code ≤ interval.hi

instance (code : UInt32) (interval : Interval) : Decidable (code ∈ interval) :=
  inferInstanceAs (Decidable (interval.lo ≤ code ∧ code ≤ interval.hi))

theorem mem_def {code : UInt32} {interval : Interval} :
    code ∈ interval ↔ interval.lo ≤ code ∧ code ≤ interval.hi :=
  Iff.rfl

@[simp]
theorem mem_mk {code lo hi : UInt32} : code ∈ (⟨lo, hi⟩ : Interval) ↔ lo ≤ code ∧ code ≤ hi :=
  Iff.rfl

/-- The interval of one value. -/
def point (code : UInt32) : Interval := ⟨code, code⟩

@[simp]
theorem mem_point {code other : UInt32} : other ∈ point code ↔ other = code :=
  ⟨fun within => UInt32.le_antisymm within.2 within.1,
    fun same => same ▸ ⟨UInt32.le_refl _, UInt32.le_refl _⟩⟩

/-- The first interval ends below the beginning of the second. -/
def Before (left right : Interval) : Prop := left.hi < right.lo

/-- At least one value lies between the end of the first interval and the beginning of the second. -/
def Apart (left right : Interval) : Prop := left.hi.toNat + 1 < right.lo.toNat

instance (left right : Interval) : Decidable (left.Before right) :=
  inferInstanceAs (Decidable (left.hi < right.lo))

instance (left right : Interval) : Decidable (left.Apart right) :=
  inferInstanceAs (Decidable (left.hi.toNat + 1 < right.lo.toNat))

end Interval

/-- The intervals hold the value. -/
def Covers (intervals : List Interval) (code : UInt32) : Prop :=
  ∃ interval ∈ intervals, code ∈ interval

instance (intervals : List Interval) (code : UInt32) : Decidable (Covers intervals code) :=
  inferInstanceAs (Decidable (∃ interval ∈ intervals, code ∈ interval))

section

variable {interval : Interval} {intervals rest left right : List Interval} {code : UInt32}

@[simp]
theorem not_covers_nil : ¬ Covers [] code := by
  rintro ⟨_, member, _⟩
  exact List.not_mem_nil member

@[simp]
theorem covers_cons : Covers (interval :: rest) code ↔ code ∈ interval ∨ Covers rest code := by
  simp only [Covers, List.mem_cons, or_and_right, exists_or, exists_eq_left]

@[simp]
theorem covers_append : Covers (left ++ right) code ↔ Covers left code ∨ Covers right code := by
  simp only [Covers, List.mem_append, or_and_right, exists_or]

@[simp]
theorem covers_reverse : Covers intervals.reverse code ↔ Covers intervals code := by
  simp only [Covers, List.mem_reverse]

end

/-- No interval is empty and the intervals are ascending and disjoint. -/
def Ordered (intervals : List Interval) : Prop :=
  (∀ interval ∈ intervals, interval.lo ≤ interval.hi) ∧ intervals.Pairwise Interval.Before

/-- No interval is empty and the intervals are ascending with a gap between any two. -/
def Canonical (intervals : List Interval) : Prop :=
  (∀ interval ∈ intervals, interval.lo ≤ interval.hi) ∧ intervals.Pairwise Interval.Apart

end UnicodeIdentifier
