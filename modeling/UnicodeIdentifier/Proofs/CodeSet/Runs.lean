import UnicodeIdentifier.CodeSet.Runs
import UnicodeIdentifier.Proofs.Interval

/-!
# The runs of a set are its canonical intervals

The invariant of the coalescing walk is that the runs found so far are the canonical intervals of the
members already taken.  Each new member is greater than those, so it either extends the latest run
or leaves a gap after it.
-/

namespace UnicodeIdentifier
namespace CodeSet

/-- The runs, listed latest first, are the canonical intervals of the members already seen. -/
structure AreRunsOf (seen : List UInt32) (runs : List Interval) : Prop where
  nonempty : ∀ run ∈ runs, run.lo ≤ run.hi
  apart : runs.Pairwise fun later earlier => earlier.Apart later
  covers_iff : ∀ code, Covers runs code ↔ code ∈ seen

namespace AreRunsOf

variable {seen : List UInt32} {runs earlier : List Interval} {last : Interval} {code : UInt32}

theorem nil : AreRunsOf [] [] :=
  ⟨fun _ member => absurd member List.not_mem_nil, List.Pairwise.nil, fun _ =>
    ⟨fun covered => absurd covered not_covers_nil, fun member => absurd member List.not_mem_nil⟩⟩

theorem hi_mem (are : AreRunsOf seen (last :: earlier)) : last.hi ∈ seen :=
  (are.covers_iff last.hi).mp ⟨last, List.mem_cons_self,
    are.nonempty last List.mem_cons_self, UInt32.le_refl _⟩

theorem extend (are : AreRunsOf seen (last :: earlier)) (greater : last.hi < code)
    (follows : last.hi + 1 = code) : AreRunsOf (seen ++ [code]) (⟨last.lo, code⟩ :: earlier) := by
  have lo_le := are.nonempty last List.mem_cons_self
  obtain ⟨gaps, apart⟩ := List.pairwise_cons.mp are.apart
  refine ⟨?_, List.pairwise_cons.mpr ⟨gaps, apart⟩, fun other => ?_⟩
  · intro run member
    rcases List.mem_cons.mp member with rfl | older
    · exact UInt32.le_trans lo_le (UInt32.le_of_lt greater)
    · exact are.nonempty run (List.mem_cons_of_mem _ older)
  · -- the successor does not wrap round, since it is greater
    have next : code.toNat = last.hi.toNat + 1 := by
      rw [← toNat_succ_of_lt greater, follows]
    have grown : other ∈ (⟨last.lo, code⟩ : Interval) ↔ other ∈ last ∨ other = code := by
      simp only [Interval.mem_def, UInt32.le_iff_toNat_le, ← UInt32.toNat_inj] at lo_le ⊢
      omega
    rw [covers_cons, grown, List.mem_append, List.mem_singleton, ← are.covers_iff other, covers_cons]
    constructor
    · rintro ((inLast | new) | older)
      · exact Or.inl (Or.inl inLast)
      · exact Or.inr new
      · exact Or.inl (Or.inr older)
    · rintro ((inLast | older) | new)
      · exact Or.inl (Or.inl inLast)
      · exact Or.inr older
      · exact Or.inl (Or.inr new)

theorem push (are : AreRunsOf seen runs) (gap : ∀ run ∈ runs, run.Apart (Interval.point code)) :
    AreRunsOf (seen ++ [code]) (Interval.point code :: runs) := by
  refine ⟨?_, List.pairwise_cons.mpr ⟨gap, are.apart⟩, fun other => ?_⟩
  · intro run member
    rcases List.mem_cons.mp member with rfl | older
    · exact UInt32.le_refl code
    · exact are.nonempty run older
  · rw [covers_cons, Interval.mem_point, are.covers_iff, List.mem_append, List.mem_singleton,
      or_comm]

/-- Taking one more member keeps the invariant. -/
theorem extendRuns (are : AreRunsOf seen runs) (greater : ∀ member ∈ seen, member < code) :
    AreRunsOf (seen ++ [code]) (CodeSet.extendRuns runs code) := by
  cases runs with
  | nil => exact are.push fun _ member => absurd member List.not_mem_nil
  | cons last earlier =>
    have last_lt := greater last.hi are.hi_mem
    rw [CodeSet.extendRuns]
    split
    · rename_i follows
      exact are.extend last_lt follows
    · rename_i separate
      have last_apart : last.Apart (Interval.point code) := by
        have ne_next : code.toNat ≠ last.hi.toNat + 1 := by
          intro next
          apply separate
          rw [← UInt32.toNat_inj, toNat_succ_of_lt last_lt, next]
        rw [UInt32.lt_iff_toNat_lt] at last_lt
        simp only [Interval.Apart, Interval.point]
        omega
      refine are.push fun run member => ?_
      rcases List.mem_cons.mp member with rfl | older
      · exact last_apart
      · have lo_le := are.nonempty last List.mem_cons_self
        have run_apart := List.rel_of_pairwise_cons are.apart older
        rw [UInt32.le_iff_toNat_le] at lo_le
        simp only [Interval.Apart, Interval.point] at run_apart last_apart ⊢
        omega

theorem foldl (are : AreRunsOf seen runs) {codes : List UInt32}
    (ascending : (seen ++ codes).Pairwise (· < ·)) :
    AreRunsOf (seen ++ codes) (codes.foldl CodeSet.extendRuns runs) := by
  induction codes generalizing seen runs with
  | nil => simpa using are
  | cons code codes ih =>
    have greater : ∀ member ∈ seen, member < code := fun member isSeen =>
      (List.pairwise_append.mp ascending).2.2 member isSeen code List.mem_cons_self
    rw [List.append_cons] at ascending ⊢
    exact ih (are.extendRuns greater) ascending

end AreRunsOf

variable {set : CodeSet} {code : UInt32}

theorem areRunsOf_codes (set : CodeSet) :
    AreRunsOf set.codes (set.codes.foldl extendRuns []) :=
  AreRunsOf.nil.foldl set.ascending

theorem canonical_runs (set : CodeSet) : Canonical set.runs := by
  have are := areRunsOf_codes set
  refine ⟨fun run member => are.nonempty run (List.mem_reverse.mp member), ?_⟩
  exact List.pairwise_reverse.mpr are.apart

/-- The runs of a set hold its members and nothing else. -/
@[simp]
theorem covers_runs : Covers set.runs code ↔ code ∈ set := by
  simp [runs, (areRunsOf_codes set).covers_iff]

end CodeSet
end UnicodeIdentifier
