import UnicodeIdentifier.CodeSet

/-!
# Lists of intervals

A canonical list is ordered, and two intervals of an ordered list share no value.  One walk through
a list tells whether it is canonical, and one walk through two lists tells whether the intervals of
the second lie inside intervals of the first.
-/

namespace UnicodeIdentifier

variable {interval : Interval} {intervals rest left right : List Interval} {code : UInt32}

theorem le_of_covers {bound : UInt32} (bounded : ∀ interval ∈ intervals, interval.hi ≤ bound)
    (covered : Covers intervals code) : code ≤ bound := by
  obtain ⟨interval, member, within⟩ := covered
  exact UInt32.le_trans within.2 (bounded interval member)

@[simp]
theorem canonical_nil : Canonical [] :=
  ⟨fun _ member => absurd member List.not_mem_nil, List.Pairwise.nil⟩

@[simp]
theorem canonical_cons : Canonical (interval :: rest) ↔
    interval.lo ≤ interval.hi ∧ (∀ later ∈ rest, interval.Apart later) ∧ Canonical rest := by
  simp only [Canonical, List.forall_mem_cons, List.pairwise_cons]
  constructor
  · rintro ⟨⟨first, others⟩, apart, gaps⟩
    exact ⟨first, apart, others, gaps⟩
  · rintro ⟨first, apart, others, gaps⟩
    exact ⟨⟨first, others⟩, apart, gaps⟩

theorem Interval.Apart.before {first second : Interval} (apart : first.Apart second) :
    first.Before second := by
  rw [Interval.Before, UInt32.lt_iff_toNat_lt]
  exact Nat.lt_of_succ_lt apart

theorem Canonical.ordered (canonical : Canonical intervals) : Ordered intervals :=
  ⟨canonical.1, canonical.2.imp Interval.Apart.before⟩

theorem Ordered.tail (ordered : Ordered (interval :: rest)) : Ordered rest :=
  ⟨fun later member => ordered.1 later (List.mem_cons_of_mem interval member), ordered.2.tail⟩

theorem Ordered.before_of_mem {later : Interval} (ordered : Ordered (interval :: rest))
    (member : later ∈ rest) : interval.Before later :=
  List.rel_of_pairwise_cons ordered.2 member

theorem Ordered.append (leftOrdered : Ordered left) (rightOrdered : Ordered right)
    (before : ∀ first ∈ left, ∀ second ∈ right, first.Before second) : Ordered (left ++ right) :=
  ⟨List.forall_mem_append.mpr ⟨leftOrdered.1, rightOrdered.1⟩,
    List.pairwise_append.mpr ⟨leftOrdered.2, rightOrdered.2, before⟩⟩

theorem toNat_succ_of_lt {other : UInt32} (less : code < other) :
    (code + 1).toNat = code.toNat + 1 := by
  have small : code.toNat + 1 < 2 ^ 32 :=
    Nat.lt_of_le_of_lt (UInt32.lt_iff_toNat_lt.mp less) other.toNat_lt_size
  rw [UInt32.toNat_add]
  exact Nat.mod_eq_of_lt small

/-- Walk through a list whose intervals must not begin below the floor.  After an interval the floor
lies past the word that follows its end. -/
def isCanonicalFrom (floor : Nat) : List Interval → Bool
  | [] => true
  | interval :: rest =>
    floor ≤ interval.lo.toNat && interval.lo ≤ interval.hi &&
      isCanonicalFrom (interval.hi.toNat + 2) rest

theorem isCanonicalFrom_eq_true_iff {floor : Nat} :
    isCanonicalFrom floor intervals = true ↔
      Canonical intervals ∧ ∀ interval ∈ intervals, floor ≤ interval.lo.toNat := by
  induction intervals generalizing floor with
  | nil => simp [isCanonicalFrom]
  | cons interval rest ih =>
    simp only [isCanonicalFrom, Bool.and_eq_true, decide_eq_true_eq, ih, canonical_cons,
      List.forall_mem_cons, UInt32.le_iff_toNat_le]
    constructor
    · rintro ⟨⟨above, nonempty⟩, canonical, apart⟩
      refine ⟨⟨nonempty, apart, canonical⟩, above, fun later member => ?_⟩
      have := apart later member
      omega
    · rintro ⟨⟨nonempty, apart, canonical⟩, above, _⟩
      exact ⟨⟨above, nonempty⟩, canonical, apart⟩

instance : DecidablePred Canonical := fun intervals =>
  decidable_of_iff (isCanonicalFrom 0 intervals = true) (by simp [isCanonicalFrom_eq_true_iff])

/-- The second interval lies inside the first. -/
def Interval.surrounds (outer inner : Interval) : Bool := outer.lo ≤ inner.lo && inner.hi ≤ outer.hi

theorem Interval.mem_of_surrounds {outer inner : Interval} (inside : outer.surrounds inner = true)
    (member : code ∈ inner) : code ∈ outer := by
  simp only [Interval.surrounds, Bool.and_eq_true, decide_eq_true_eq] at inside
  exact ⟨UInt32.le_trans inside.1 member.1, UInt32.le_trans member.2 inside.2⟩

/-- Walk through two ascending lists: each interval of the first takes away from the front of the
second those that lie inside it, and nothing may be left at the end. -/
def surroundsAll : List Interval → List Interval → Bool
  | [], inner => inner.isEmpty
  | outer :: rest, inner => surroundsAll rest (inner.dropWhile outer.surrounds)

/-- What the second list of a successful walk holds, the first holds too. -/
theorem covers_of_surroundsAll {outer inner : List Interval}
    (surrounded : surroundsAll outer inner = true) (covered : Covers inner code) :
    Covers outer code := by
  induction outer generalizing inner with
  | nil =>
    rw [surroundsAll, List.isEmpty_iff] at surrounded
    exact absurd (surrounded ▸ covered) not_covers_nil
  | cons first rest ih =>
    rw [← List.takeWhile_append_dropWhile (p := first.surrounds) (l := inner),
      covers_append] at covered
    rw [covers_cons]
    rcases covered with ⟨interval, taken, member⟩ | later
    · have inside := List.all_eq_true.mp List.all_takeWhile interval taken
      exact Or.inl (Interval.mem_of_surrounds inside member)
    · exact Or.inr (ih surrounded later)

end UnicodeIdentifier
