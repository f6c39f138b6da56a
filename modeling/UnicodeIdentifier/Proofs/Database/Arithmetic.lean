import UnicodeIdentifier.Proofs.Database.Tables

/-!
# Arithmetic that stays within its words

On the way from two sets to the numbers that are written, two operations could leave their machine
words: the step past the end of a run, and the shift of a bit to the place of a character.  The
computation is repeated here on natural numbers, with an arithmetic that says what becomes of a number
that must lie below a bound.  Unbounded arithmetic lets every number pass and checked arithmetic stops
at the first that does not fit.  The members of a set come in ascending order, so the end of a run has
a greater member after it, and only ASCII members come to a mask; hence every number fits.
-/

namespace UnicodeIdentifier

/-- The ends of the intervals in both views of a table, as numbers of any size. -/
structure Views where
  narrow : List (Nat × Nat)
  wide : List (Nat × Nat)
deriving DecidableEq, Repr

/-- The masks and the tables of a classifier, as numbers of any size. -/
structure Figures where
  startMask : Nat
  continueMask : Nat
  start : Views
  continuing : Views
deriving DecidableEq, Repr

/-- The two ends as numbers. -/
def Interval.ends (interval : Interval) : Nat × Nat := (interval.lo.toNat, interval.hi.toNat)

/-- The views of a table in numbers. -/
def IntervalTable.views (table : IntervalTable) : Views :=
  ⟨table.narrow.map Interval.ends, table.wide.toList.map Interval.ends⟩

/-- The data of a classifier in numbers. -/
def Classifier.figures (classifier : Classifier) : Figures where
  startMask := classifier.startMask.toNat
  continueMask := classifier.continueMask.toNat
  start := classifier.start.views
  continuing := classifier.continuing.views

/-- What becomes of a number that must lie below a bound.  A number that does is passed on. -/
structure Arithmetic (Outcome : Type → Type) [Monad Outcome] where
  /-- Pass on a number that must lie below the bound. -/
  fit (bound value : Nat) : Outcome Nat
  fit_of_lt {bound value : Nat} (below : value < bound) : fit bound value = pure value

namespace Arithmetic

/-- Every number is passed on. -/
def unbounded : Arithmetic Id := ⟨fun _ value => value, fun _ => rfl⟩

/-- A number that does not lie below the bound of its word. -/
structure Overflow where
  bound : Nat
  value : Nat
deriving DecidableEq, Repr

/-- A number that does not fit ends the computation. -/
def checked : Arithmetic (Except Overflow) where
  fit bound value := if value < bound then .ok value else .error ⟨bound, value⟩
  fit_of_lt below := if_pos below

section

variable {Outcome : Type → Type} [Monad Outcome] (arithmetic : Arithmetic Outcome)

/-- The next number in a word of 32 bits. -/
def next (code : Nat) : Outcome Nat := arithmetic.fit UInt32.size (code + 1)

/-- The mask of one character.  A word of 128 bits is shifted by less than its width. -/
def bit (code : Nat) : Outcome Nat := do
  return 1 <<< (← arithmetic.fit 128 code)

/-- Take one more member into the runs found so far, which are listed latest first. -/
def extendRuns (runs : List (Nat × Nat)) (code : Nat) : Outcome (List (Nat × Nat)) :=
  match runs with
  | [] => return [(code, code)]
  | (lo, hi) :: earlier => do
    if (← arithmetic.next hi) = code then return (lo, code) :: earlier
    else return (code, code) :: (lo, hi) :: earlier

/-- The maximal runs of a set. -/
def runs (set : CodeSet) : Outcome (List (Nat × Nat)) := do
  return (← (set.codes.map UInt32.toNat).foldlM arithmetic.extendRuns []).reverse

/-- Divide intervals between the views. -/
def split : List (Nat × Nat) → Outcome Views
  | [] => return ⟨[], []⟩
  | (lo, hi) :: rest => do
    if hi ≤ narrowMax.toNat then
      let views ← split rest
      return ⟨(lo, hi) :: views.narrow, views.wide⟩
    else if narrowMax.toNat < lo then
      let views ← split rest
      return ⟨views.narrow, (lo, hi) :: views.wide⟩
    else
      let past ← arithmetic.next narrowMax.toNat
      let views ← split rest
      return ⟨(lo, narrowMax.toNat) :: views.narrow, (past, hi) :: views.wide⟩

/-- Set the bits of characters, one after another. -/
def setBits (mask : Nat) (codes : List Nat) : Outcome Nat :=
  codes.foldlM (fun mask code => do return mask ||| (← arithmetic.bit code)) mask

/-- The mask of the ASCII members of a set. -/
def mask (set : CodeSet) : Outcome Nat :=
  arithmetic.setBits 0 ((set.codes.map UInt32.toNat).takeWhile (· < AsciiMask.limit.toNat))

/-- The figures of two sets. -/
def figures (start continuing : CodeSet) : Outcome Figures := do
  let startViews ← arithmetic.split (← arithmetic.runs start)
  let continuingViews ← arithmetic.split (← arithmetic.runs continuing)
  let startMask :=
    (← arithmetic.mask start) ||| (← arithmetic.bit dollar.toNat) |||
      (← arithmetic.bit underscore.toNat)
  let continueMask := (← arithmetic.mask continuing) ||| (← arithmetic.bit dollar.toNat)
  return ⟨startMask, continueMask, startViews, continuingViews⟩

end

/-- Checked arithmetic stops exactly at the numbers from the bound on. -/
theorem checked_fit_eq_error_iff {bound value : Nat} {overflow : Overflow} :
    checked.fit bound value = .error overflow ↔ bound ≤ value ∧ ⟨bound, value⟩ = overflow := by
  rw [checked]
  dsimp only
  split
  · rename_i below
    simp [Nat.not_le.mpr below]
  · rename_i beyond
    simp [Nat.not_lt.mp beyond]

example : checked.extendRuns [(0xFFFFFFFE, 0xFFFFFFFF)] 0 = .error ⟨2 ^ 32, 2 ^ 32⟩ := rfl

example : checked.bit 0x80 = .error ⟨128, 128⟩ := rfl

variable {Outcome : Type → Type} [Monad Outcome] (arithmetic : Arithmetic Outcome)
  {code other : UInt32} {codes : List UInt32} {runs : List Interval} {last : Interval}

theorem next_eq (less : code < other) : arithmetic.next code.toNat = pure (code + 1).toNat := by
  rw [toNat_succ_of_lt less]
  exact arithmetic.fit_of_lt
    (Nat.lt_of_le_of_lt (UInt32.lt_iff_toNat_lt.mp less) other.toNat_lt_size)

theorem toNat_bit (small : code < AsciiMask.limit) :
    (AsciiMask.bit code).toNat = 1 <<< code.toNat := by
  have below : 2 ^ code.toNat < 2 ^ 128 :=
    Nat.pow_lt_pow_right (by decide) (AsciiMask.toNat_lt_of_lt_limit small)
  rw [AsciiMask.bit_eq_twoPow, BitVec.toNat_twoPow, Nat.mod_eq_of_lt below, Nat.one_shiftLeft]

variable [LawfulMonad Outcome]

theorem bit_eq (small : code < AsciiMask.limit) :
    arithmetic.bit code.toNat = pure (AsciiMask.bit code).toNat := by
  rw [bit, arithmetic.fit_of_lt (AsciiMask.toNat_lt_of_lt_limit small), pure_bind, toNat_bit small]

theorem extendRuns_eq (greater : ∀ last ∈ runs.head?, last.hi < code) :
    arithmetic.extendRuns (runs.map Interval.ends) code.toNat =
      pure ((CodeSet.extendRuns runs code).map Interval.ends) := by
  cases runs with
  | nil => rfl
  | cons last earlier =>
    have less : last.hi < code := greater last rfl
    rw [List.map_cons, Interval.ends, extendRuns, next_eq arithmetic less, pure_bind,
      CodeSet.extendRuns]
    simp only [UInt32.toNat_inj]
    split
    · rfl
    · rfl

theorem hi_of_mem_head?_extendRuns (isLast : last ∈ (CodeSet.extendRuns runs code).head?) :
    last.hi = code := by
  rw [CodeSet.extendRuns.eq_def] at isLast
  split at isLast
  · cases isLast
    rfl
  · split at isLast
    · cases isLast
      rfl
    · cases isLast
      rfl

/-- Members in ascending order are taken in without leaving the words, since the run that is stepped
past ends below the member that comes. -/
theorem foldlM_extendRuns_eq (ascending : codes.Pairwise (· < ·))
    (greater : ∀ last ∈ runs.head?, ∀ code ∈ codes, last.hi < code) :
    (codes.map UInt32.toNat).foldlM arithmetic.extendRuns (runs.map Interval.ends) =
      pure ((codes.foldl CodeSet.extendRuns runs).map Interval.ends) := by
  induction codes generalizing runs with
  | nil => rfl
  | cons code codes ih =>
    have less : ∀ last ∈ runs.head?, last.hi < code := fun last isLast =>
      greater last isLast code List.mem_cons_self
    rw [List.map_cons, List.foldlM_cons, extendRuns_eq arithmetic less, pure_bind, List.foldl_cons]
    apply ih ascending.tail
    intro last isLast later member
    rw [hi_of_mem_head?_extendRuns isLast]
    exact List.rel_of_pairwise_cons ascending member

theorem runs_eq (set : CodeSet) : arithmetic.runs set = pure (set.runs.map Interval.ends) := by
  have noRun : ∀ last ∈ ([] : List Interval).head?, ∀ code ∈ set.codes, last.hi < code := by
    intro last isLast
    cases isLast
  have isFold := foldlM_extendRuns_eq arithmetic set.ascending noRun
  rw [List.map_nil] at isFold
  rw [Arithmetic.runs, isFold, pure_bind, CodeSet.runs, List.map_reverse]

theorem split_eq (intervals : List Interval) :
    arithmetic.split (intervals.map Interval.ends) = pure (IntervalTable.split intervals).views := by
  have past : narrowMax < narrowMax + 1 := by decide
  induction intervals with
  | nil => rfl
  | cons interval rest ih =>
    rw [List.map_cons, Interval.ends, split, ih, next_eq arithmetic past]
    simp only [pure_bind, ← UInt32.le_iff_toNat_le, ← UInt32.lt_iff_toNat_lt, IntervalTable.views,
      IntervalTable.split, List.filterMap_cons, IntervalTable.narrowPart?, IntervalTable.widePart?]
    split
    · rfl
    · split
      · rfl
      · rfl

theorem setBits_eq (ascii : ∀ code ∈ codes, code < AsciiMask.limit) (mask : AsciiMask) :
    arithmetic.setBits mask.toNat (codes.map UInt32.toNat) =
      pure (codes.foldl (fun mask code => mask ||| AsciiMask.bit code) mask).toNat := by
  induction codes generalizing mask with
  | nil => rfl
  | cons code codes ih =>
    obtain ⟨small, others⟩ := List.forall_mem_cons.mp ascii
    have more := ih others (mask ||| AsciiMask.bit code)
    rw [setBits, BitVec.toNat_or] at more
    rw [setBits, List.map_cons, List.foldlM_cons, bit_eq arithmetic small, pure_bind, pure_bind, more,
      List.foldl_cons]

theorem mask_eq (set : CodeSet) : arithmetic.mask set = pure (AsciiMask.ofSet set).toNat := by
  have ascii_eq : (set.codes.map UInt32.toNat).takeWhile (· < AsciiMask.limit.toNat) =
      (set.codes.takeWhile (· < AsciiMask.limit)).map UInt32.toNat := by
    rw [List.takeWhile_map]
    rfl
  have ascii : ∀ code ∈ set.codes.takeWhile (· < AsciiMask.limit), code < AsciiMask.limit :=
    fun code member => of_decide_eq_true (List.all_eq_true.mp List.all_takeWhile code member)
  rw [mask, ascii_eq, AsciiMask.ofSet]
  exact setBits_eq arithmetic ascii 0#128

/-- Whatever becomes of numbers that do not fit, the figures of two sets are those of their classifier,
because all numbers fit. -/
theorem figures_eq (version : Version) (start continuing : CodeSet) :
    arithmetic.figures start continuing =
      pure (Classifier.ofSets version start continuing).figures := by
  simp only [figures, runs_eq, split_eq, mask_eq, bit_eq arithmetic Classifier.dollar_lt_limit,
    bit_eq arithmetic Classifier.underscore_lt_limit, pure_bind, Classifier.figures, Classifier.ofSets,
    BitVec.toNat_or]

end Arithmetic

namespace Database

variable {derived list : String} {version : Version}

/-- Of texts that parse, whatever values they name, the figures are computed without a number that does
not fit into its word, and they are the same as in unbounded arithmetic.  They are those of the
classifier that the texts give, if they give one. -/
theorem Parses.figures_checked (parses : Parses derived list version) :
    ∃ start continuing : CodeSet,
      (∀ code, code ∈ start ↔ Begins derived list code) ∧
      (∀ code, code ∈ continuing ↔ Continues derived list code) ∧
      Arithmetic.checked.figures start continuing =
        .ok (Arithmetic.unbounded.figures start continuing).run ∧
      (Arithmetic.unbounded.figures start continuing).run =
        (Classifier.ofSets version start continuing).figures ∧
      ∀ classifier, Yields derived list version classifier →
        classifier = Classifier.ofSets version start continuing := by
  obtain ⟨derivedEntries, listEntries, derivedRead, listRead⟩ := parses.exists_entries
  have mem_start : ∀ code, code ∈ startOf derivedEntries listEntries ↔ Begins derived list code :=
    fun _ => mem_startOf derivedRead listRead
  have mem_continuing : ∀ code, code ∈ continuingOf derivedEntries listEntries ↔
      Continues derived list code :=
    fun _ => mem_continuingOf derivedRead listRead
  refine ⟨_, _, mem_start, mem_continuing, ?_, ?_, fun _ yields =>
    yields.eq_ofSets mem_start mem_continuing⟩
  · rw [Arithmetic.figures_eq _ version, Arithmetic.figures_eq _ version]
    rfl
  · rw [Arithmetic.figures_eq _ version]
    rfl

/-- A table whose last interval ends with the greatest word. -/
def topTable : IntervalTable := ⟨[⟨0x41, 0x5A⟩], #[⟨0xFFFFFFFE, 0xFFFFFFFF⟩]⟩

/-- Texts that name the greatest word parse, and the views come out of checked arithmetic. -/
theorem Parses.figures_checked_top :
    Parses (derivedOf ⟨13, 0, 0⟩ topTable topTable) "" ⟨13, 0, 0⟩ ∧
      ∃ start continuing figures, Arithmetic.checked.figures start continuing = .ok figures ∧
        (0xFFFFFFFF : UInt32) ∈ start ∧
        figures.start = ⟨[(0x41, 0x5A)], [(2 ^ 32 - 2, 2 ^ 32 - 1)]⟩ ∧
        figures.continuing = ⟨[(0x41, 0x5A)], [(2 ^ 32 - 2, 2 ^ 32 - 1)]⟩ := by
  have canonical : topTable.Canonical := ⟨⟨by decide, by decide⟩, by decide, by decide⟩
  have states := states_derivedOf ⟨13, 0, 0⟩ topTable topTable
  have parses := states.parses canonical canonical
  obtain ⟨start, continuing, mem_start, _, isChecked, isClassifier, unique⟩ := parses.figures_checked
  obtain ⟨classifier, yields, _, _, start_eq, continuing_eq⟩ :=
    states.exists_yields canonical canonical fun _ covered => covered
  rw [unique classifier yields] at start_eq continuing_eq
  have top : (0xFFFFFFFF : UInt32) ∈ start := by
    rw [mem_start, states.begins_iff canonical canonical]
    exact ⟨⟨0xFFFFFFFE, 0xFFFFFFFF⟩, by decide, by decide, by decide⟩
  refine ⟨parses, start, continuing, _, isChecked, top, ?_, ?_⟩
  · rw [isClassifier, Classifier.figures, start_eq]
    rfl
  · rw [isClassifier, Classifier.figures, continuing_eq]
    rfl

end Database
end UnicodeIdentifier
