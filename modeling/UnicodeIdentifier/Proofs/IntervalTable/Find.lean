import UnicodeIdentifier.Proofs.IntervalTable.Lookup
import UnicodeIdentifier.Proofs.IntervalTable.Members
import UnicodeIdentifier.Proofs.IntervalTable.Walk

/-!
# Lookup by walking

Walking to the first interval that ends at or above a value answers whether the value is contained:
it is if this interval also begins at or below it.  A single walk goes through both views and may
stop in the wide one, where lookup never goes for a low value.  What makes the two agree is that the
views follow one another in ascending order.
-/

namespace UnicodeIdentifier

variable {interval : Interval} {rest : List Interval} {code : UInt32}

theorem Ordered.lt_lo_of_le_hi (ordered : Ordered (interval :: rest)) (ends : code ≤ interval.hi) :
    ∀ later ∈ rest, code < later.lo := fun _ member =>
  UInt32.lt_of_le_of_lt ends (ordered.before_of_mem member)

/-- An interval that ends at or above the value decides alone whether the value is held. -/
theorem Ordered.covers_iff_of_le_hi (ordered : Ordered (interval :: rest))
    (ends : code ≤ interval.hi) : Covers (interval :: rest) code ↔ interval.lo ≤ code := by
  rw [covers_cons]
  constructor
  · rintro (inside | ⟨later, member, inside⟩)
    · exact inside.1
    · exact absurd inside.1 (UInt32.not_le.mpr (ordered.lt_lo_of_le_hi ends later member))
  · intro begins
    exact Or.inl ⟨begins, ends⟩

namespace Cursor

variable {cursor : Cursor}

/-- A cursor before ordered intervals finds an interval that begins at or below the value exactly if
they hold the value. -/
theorem covers_iff_find (ordered : Ordered cursor.remaining) :
    Covers cursor.remaining code ↔ ∃ interval,
      (cursor.find fun interval => code ≤ interval.hi).1 = some interval ∧ interval.lo ≤ code := by
  fun_induction find (fun interval => decide (code ≤ interval.hi)) cursor with
  | case1 cursor interval after isNext ends =>
    rw [remaining_of_next? isNext] at ordered ⊢
    rw [ordered.covers_iff_of_le_hi (of_decide_eq_true ends)]
    simp
  | case2 cursor interval after isNext below ih =>
    rw [remaining_of_next? isNext] at ordered ⊢
    have past : interval.hi < code := UInt32.not_le.mp (by simpa using below)
    rw [← ih ordered.tail, covers_tail_iff ordered, and_iff_left past]
  | case3 cursor isNone =>
    rw [remaining_eq_nil isNone]
    simp

theorem lt_lo_of_mem_find (ordered : Ordered cursor.remaining) :
    ∀ later ∈ (cursor.find fun interval => code ≤ interval.hi).2.remaining, code < later.lo := by
  fun_induction find (fun interval => decide (code ≤ interval.hi)) cursor with
  | case1 cursor interval after isNext ends =>
    rw [remaining_of_next? isNext] at ordered
    exact ordered.lt_lo_of_le_hi (of_decide_eq_true ends)
  | case2 cursor interval after isNext below ih =>
    rw [remaining_of_next? isNext] at ordered
    exact ih ordered.tail
  | case3 cursor isNone =>
    rw [remaining_eq_nil isNone]
    exact List.forall_mem_nil _

end Cursor

namespace IntervalTable

variable {table : IntervalTable}

theorem WellFormed.ordered_intervals (wellFormed : table.WellFormed) : Ordered table.intervals := by
  apply wellFormed.narrow_ordered.append wellFormed.wide_ordered
  intro first isNarrow second isWide
  exact UInt32.lt_of_le_of_lt (wellFormed.narrow_le first isNarrow) (wellFormed.lt_wide second isWide)

/-- A well-formed table contains a value exactly if a new cursor, searching for the first interval that
ends at or above the value, finds one that begins at or below it.  Everything that the cursor hands out
after the search begins above the value. -/
theorem contains_iff_find_cursor (wellFormed : table.WellFormed) (code : UInt32) :
    (table.contains code = true ↔ ∃ interval,
      (table.cursor.find fun interval => code ≤ interval.hi).1 = some interval ∧
        interval.lo ≤ code) ∧
    ∀ skipped later,
      ((table.cursor.find fun interval => code ≤ interval.hi).2.nth skipped).1 = some later →
        code < later.lo := by
  have ordered : Ordered table.cursor.remaining := wellFormed.ordered_intervals
  constructor
  · rw [contains_eq_true_iff wellFormed]
    exact Cursor.covers_iff_find ordered
  · intro skipped later isNth
    rw [(Cursor.nth_eq skipped _).1] at isNth
    exact Cursor.lt_lo_of_mem_find ordered later (List.mem_of_getElem? isNth)

/-- Letters with a gap before the boundary. -/
def gappedLetters : IntervalTable := ⟨[⟨0x41, 0x5A⟩, ⟨0x61, 0x7A⟩], #[⟨0x100, 0x2C1⟩, ⟨0x2C6, 0x2D1⟩]⟩

/-- For a value in the gap the cursor goes on into the wide view, and what it finds there begins too
late; the value is not contained, and the last interval is still to come. -/
theorem contains_iff_find_cursor_gap : gappedLetters.WellFormed ∧
    (gappedLetters.cursor.find fun interval => 0xF7 ≤ interval.hi).1 = some ⟨0x100, 0x2C1⟩ ∧
    gappedLetters.contains 0xF7 = false ∧
    ((gappedLetters.cursor.find fun interval => 0xF7 ≤ interval.hi).2.nth 0).1 =
      some ⟨0x2C6, 0x2D1⟩ ∧ (0xF7 : UInt32) < 0x2C6 := by
  have wellFormed : gappedLetters.WellFormed :=
    ⟨⟨by decide, by decide⟩, ⟨by decide, by decide⟩, ⟨by decide, by decide⟩⟩
  have found : (gappedLetters.cursor.find fun interval => 0xF7 ≤ interval.hi).1 =
      some ⟨0x100, 0x2C1⟩ := by
    rw [(Cursor.find_eq _ _).1]
    rfl
  have isNext : ((gappedLetters.cursor.find fun interval => 0xF7 ≤ interval.hi).2.nth 0).1 =
      some ⟨0x2C6, 0x2D1⟩ := by
    rw [(Cursor.nth_eq _ _).1, (Cursor.find_eq _ _).2]
    rfl
  obtain ⟨contains_iff, later⟩ := contains_iff_find_cursor wellFormed 0xF7
  refine ⟨wellFormed, found, ?_, isNext, later 0 _ isNext⟩
  rw [Bool.eq_false_iff, ne_eq, contains_iff, found]
  rintro ⟨interval, same, begins⟩
  cases same
  exact absurd begins (by decide)

end IntervalTable
end UnicodeIdentifier
