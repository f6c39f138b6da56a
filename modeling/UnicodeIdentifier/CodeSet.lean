import UnicodeIdentifier.Interval

/-!
# Finite sets of code values

A set is the strictly ascending list of its members, so two sets with the same members are equal.
Sets are made from intervals in any order, overlapping or not, and one set can be taken from another.
-/

namespace UnicodeIdentifier

/-- A finite set of code values, listed in ascending order. -/
@[ext]
structure CodeSet where
  /-- The members. -/
  codes : List UInt32
  /-- Every member is listed once and in its place. -/
  ascending : codes.Pairwise (· < ·)
deriving DecidableEq

namespace CodeSet

instance : Membership UInt32 CodeSet where
  mem set code := code ∈ set.codes

instance (code : UInt32) (set : CodeSet) : Decidable (code ∈ set) :=
  inferInstanceAs (Decidable (code ∈ set.codes))

@[simp]
theorem mem_codes {code : UInt32} {set : CodeSet} : code ∈ set.codes ↔ code ∈ set :=
  Iff.rfl

@[simp]
theorem mem_mk {code : UInt32} {codes : List UInt32} {ascending : codes.Pairwise (· < ·)} :
    code ∈ (⟨codes, ascending⟩ : CodeSet) ↔ code ∈ codes :=
  Iff.rfl

/-- The least member. -/
def min? (set : CodeSet) : Option UInt32 := set.codes.head?

/-- The code values `n` with `start ≤ n < stop`, ascending. -/
def codesFrom (start stop : Nat) : List UInt32 :=
  (List.range' start (stop - start)).map UInt32.ofNat

/-- The values from `floor` on that lie in one of the intervals.  The intervals are given by
ascending lower ends; what an interval shares with its predecessors is below the floor when its
turn comes. -/
def sweep (floor : Nat) : List Interval → List UInt32
  | [] => []
  | interval :: rest =>
    let stop := interval.hi.toNat + 1
    codesFrom (max floor interval.lo.toNat) stop ++ sweep (max floor stop) rest

theorem mem_codesFrom {start stop : Nat} (bounded : stop ≤ UInt32.size) {code : UInt32} :
    code ∈ codesFrom start stop ↔ start ≤ code.toNat ∧ code.toNat < stop := by
  simp only [codesFrom, List.mem_map, List.mem_range'_1]
  constructor
  · rintro ⟨n, within, rfl⟩
    rw [UInt32.toNat_ofNat_of_lt' (by omega)]
    omega
  · intro within
    exact ⟨code.toNat, by omega, UInt32.ofNat_toNat⟩

theorem pairwise_codesFrom {start stop : Nat} (bounded : stop ≤ UInt32.size) :
    (codesFrom start stop).Pairwise (· < ·) := by
  refine List.pairwise_map.mpr (List.Pairwise.imp_of_mem ?_ List.pairwise_lt_range')
  intro a b memA memB less
  rw [List.mem_range'_1] at memA memB
  rw [UInt32.lt_iff_toNat_lt, UInt32.toNat_ofNat_of_lt' (by omega),
    UInt32.toNat_ofNat_of_lt' (by omega)]
  exact less

theorem hi_succ_le_size (interval : Interval) : interval.hi.toNat + 1 ≤ UInt32.size :=
  interval.hi.toNat_lt_size

theorem le_of_mem_sweep {intervals : List Interval} {floor : Nat} {code : UInt32}
    (member : code ∈ sweep floor intervals) : floor ≤ code.toNat := by
  induction intervals generalizing floor with
  | nil => simp [sweep] at member
  | cons interval rest ih =>
    simp only [sweep, List.mem_append] at member
    rcases member with first | later
    · have := (mem_codesFrom (hi_succ_le_size interval)).mp first
      omega
    · have := ih later
      omega

theorem pairwise_sweep (intervals : List Interval) (floor : Nat) :
    (sweep floor intervals).Pairwise (· < ·) := by
  induction intervals generalizing floor with
  | nil => exact List.Pairwise.nil
  | cons interval rest ih =>
    simp only [sweep]
    refine List.pairwise_append.mpr ⟨pairwise_codesFrom (hi_succ_le_size interval), ih _, ?_⟩
    intro early first late later
    have := (mem_codesFrom (hi_succ_le_size interval)).mp first
    have := le_of_mem_sweep later
    rw [UInt32.lt_iff_toNat_lt]
    omega

/-- The order in which `sweep` takes the intervals. -/
def byLowerEnd (intervals : List Interval) : List Interval :=
  intervals.mergeSort fun left right => left.lo ≤ right.lo

/-- A sweep through ordered lower ends finds what the intervals hold from the floor on. -/
theorem mem_sweep {intervals : List Interval}
    (ordered : intervals.Pairwise fun left right => left.lo ≤ right.lo) {floor : Nat}
    {code : UInt32} :
    code ∈ sweep floor intervals ↔ floor ≤ code.toNat ∧ Covers intervals code := by
  induction intervals generalizing floor with
  | nil => simp [sweep, Covers]
  | cons interval rest ih =>
    have later_lo : Covers rest code → interval.lo ≤ code := by
      rintro ⟨later, member, within⟩
      exact UInt32.le_trans (List.rel_of_pairwise_cons ordered member) within.1
    simp only [sweep, List.mem_append, mem_codesFrom (hi_succ_le_size interval), ih ordered.tail,
      covers_cons, Interval.mem_def, UInt32.le_iff_toNat_le] at later_lo ⊢
    constructor
    · rintro (within | ⟨above, covered⟩)
      · exact ⟨by omega, Or.inl (by omega)⟩
      · exact ⟨by omega, Or.inr covered⟩
    · rintro ⟨above, within | covered⟩
      · exact Or.inl (by omega)
      · have := later_lo covered
        by_cases below : code.toNat < interval.hi.toNat + 1
        · exact Or.inl (by omega)
        · exact Or.inr ⟨by omega, covered⟩

/-- The union of the intervals. -/
def ofIntervals (intervals : List Interval) : CodeSet where
  codes := sweep 0 (byLowerEnd intervals)
  ascending := pairwise_sweep _ _

@[simp]
theorem mem_ofIntervals {intervals : List Interval} {code : UInt32} :
    code ∈ ofIntervals intervals ↔ Covers intervals code := by
  have ordered : (byLowerEnd intervals).Pairwise fun left right => left.lo ≤ right.lo := by
    refine (List.pairwise_mergeSort ?_ ?_ intervals).imp of_decide_eq_true
    · intro a b c first second
      exact decide_eq_true
        (UInt32.le_trans (of_decide_eq_true first) (of_decide_eq_true second))
    · intro a b
      simpa using UInt32.le_total a.lo b.lo
  rw [ofIntervals, mem_mk, mem_sweep ordered]
  simp [Covers, byLowerEnd, List.mem_mergeSort]

/-- The set of the listed values, which may come in any order and more than once. -/
def ofList (codes : List UInt32) : CodeSet := ofIntervals (codes.map Interval.point)

@[simp]
theorem mem_ofList {codes : List UInt32} {code : UInt32} : code ∈ ofList codes ↔ code ∈ codes := by
  rw [ofList, mem_ofIntervals, Covers]
  constructor
  · rintro ⟨_, member, within⟩
    obtain ⟨listed, isListed, rfl⟩ := List.mem_map.mp member
    exact Interval.mem_point.mp within ▸ isListed
  · intro isListed
    exact ⟨_, List.mem_map_of_mem isListed, Interval.mem_point.mpr rfl⟩

/-- The entries of the first list that are not in the second; both lists are ascending.  The kept
entries are gathered in front, latest first. -/
def subtract (kept : List UInt32) : List UInt32 → List UInt32 → List UInt32
  | [], _ => kept.reverse
  | codes, [] => kept.reverse ++ codes
  | code :: codes, removed :: rest =>
    if code < removed then subtract (code :: kept) codes (removed :: rest)
    else if code = removed then subtract kept codes rest
    else subtract kept (code :: codes) rest
termination_by codes removed => codes.length + removed.length

theorem subtract_sublist (kept codes removed : List UInt32) :
    (subtract kept codes removed).Sublist (kept.reverse ++ codes) := by
  fun_induction subtract kept codes removed with
  | case1 => simp
  | case2 => simp
  | case3 kept code codes removed rest _ ih => simpa using ih
  | case4 kept codes removed rest _ ih =>
    exact ih.trans ((List.sublist_cons_self _ _).append_left _)
  | case5 _ _ _ _ _ _ _ ih => exact ih

theorem mem_subtract {kept codes removed : List UInt32} (ascending : codes.Pairwise (· < ·))
    (removedAscending : removed.Pairwise (· < ·)) {code : UInt32} :
    code ∈ subtract kept codes removed ↔ code ∈ kept ∨ code ∈ codes ∧ code ∉ removed := by
  fun_induction subtract kept codes removed with
  | case1 => simp
  | case2 => simp
  | case3 kept first codes removed rest less ih =>
    rw [ih ascending.tail removedAscending]
    have absent : first ∉ removed :: rest := by
      intro member
      rcases List.mem_cons.mp member with same | later
      · exact UInt32.lt_irrefl _ (same ▸ less)
      · exact UInt32.lt_irrefl _
          (UInt32.lt_trans less (List.rel_of_pairwise_cons removedAscending later))
    grind
  | case4 kept codes removed rest _ ih =>
    rw [ih ascending.tail removedAscending.tail]
    have absent : removed ∉ codes := fun later =>
      UInt32.lt_irrefl _ (List.rel_of_pairwise_cons ascending later)
    grind
  | case5 kept first codes removed rest notLess different ih =>
    rw [ih ascending removedAscending.tail]
    have greater : removed < first := by
      rw [UInt32.lt_iff_toNat_lt] at notLess ⊢
      have := mt UInt32.toNat_inj.mp different
      omega
    have absent : removed ∉ first :: codes := by
      intro member
      rcases List.mem_cons.mp member with same | later
      · exact different same.symm
      · exact UInt32.lt_irrefl _
          (UInt32.lt_trans greater (List.rel_of_pairwise_cons ascending later))
    grind

/-- The members of the first set that are not in the second. -/
def diff (set removed : CodeSet) : CodeSet where
  codes := subtract [] set.codes removed.codes
  ascending := set.ascending.sublist (by simpa using subtract_sublist [] set.codes removed.codes)

instance : SDiff CodeSet := ⟨diff⟩

@[simp]
theorem mem_sdiff {set removed : CodeSet} {code : UInt32} :
    code ∈ set \ removed ↔ code ∈ set ∧ code ∉ removed := by
  change code ∈ subtract [] set.codes removed.codes ↔ _
  rw [mem_subtract set.ascending removed.ascending]
  simp

theorem eq_of_mem_iff {left right : CodeSet} (same : ∀ code, code ∈ left ↔ code ∈ right) :
    left = right :=
  CodeSet.ext (List.Perm.eq_of_pairwise
    (fun _ _ _ _ less greater => absurd (UInt32.lt_trans less greater) (UInt32.lt_irrefl _))
    left.ascending right.ascending
    ((List.perm_ext_iff_of_nodup (left.ascending.imp UInt32.ne_of_lt)
      (right.ascending.imp UInt32.ne_of_lt)).mpr same))

theorem min?_eq_none_iff {set : CodeSet} : set.min? = none ↔ ∀ code, code ∉ set := by
  rw [min?, List.head?_eq_none_iff, List.eq_nil_iff_forall_not_mem]
  rfl

theorem min?_eq_some_iff {set : CodeSet} {least : UInt32} :
    set.min? = some least ↔ least ∈ set ∧ ∀ code ∈ set, least ≤ code := by
  obtain ⟨codes, ascending⟩ := set
  cases codes with
  | nil => simp [min?]
  | cons first rest =>
    have below : ∀ code ∈ rest, first < code := fun _ => List.rel_of_pairwise_cons ascending
    simp only [min?, List.head?_cons, Option.some.injEq, mem_mk]
    constructor
    · rintro rfl
      refine ⟨List.mem_cons_self, fun code member => ?_⟩
      rcases List.mem_cons.mp member with rfl | later
      · exact UInt32.le_refl _
      · exact UInt32.le_of_lt (below code later)
    · rintro ⟨member, least_le⟩
      rcases List.mem_cons.mp member with rfl | later
      · rfl
      · exact absurd (UInt32.lt_of_lt_of_le (below least later) (least_le first List.mem_cons_self))
          (UInt32.lt_irrefl _)

end CodeSet

end UnicodeIdentifier
