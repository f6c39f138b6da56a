import Mathlib.Tactic.TFAE
import UnicodeIdentifier.Proofs.Database.Tables
import UnicodeIdentifier.Proofs.Generator
import UnicodeIdentifier.Proofs.Standard

/-!
# Values beyond the last code point

A numeral is refused from `2 ^ 32` on, not past the last code point, and no later step looks at the
size of a value.  What is written therefore stays within the code points exactly when the texts do:
a value beyond them that may continue an identifier reaches the tables.
-/

namespace UnicodeIdentifier

namespace IntervalTable

variable {table : IntervalTable}

/-- Every interval of the table ends within the code points. -/
def Bounded (table : IntervalTable) : Prop :=
  ∀ interval ∈ table.intervals, interval.hi ≤ maxCodePoint

/-- A canonical table is bounded exactly when it holds nothing beyond the code points. -/
theorem Canonical.bounded_iff (canonical : table.Canonical) :
    table.Bounded ↔ ∀ code, Covers table.intervals code → code ≤ maxCodePoint := by
  constructor
  · intro bounded code covered
    exact le_of_covers bounded covered
  · intro within interval member
    have nonempty := canonical.lo_le_hi interval member
    exact within interval.hi ⟨interval, member, nonempty, UInt32.le_refl _⟩

/-- The table made of a set is bounded, and finds only code points, as far as the set has nothing
else. -/
theorem bounded_split_tfae {set : CodeSet} {holds : UInt32 → Prop}
    (mem_iff : ∀ code, code ∈ set ↔ holds code) :
    [(split set.runs).Bounded,
      ∀ code, (split set.runs).contains code = true → code ≤ maxCodePoint,
      ∀ code, holds code → code ≤ maxCodePoint].TFAE := by
  have canonical : (split set.runs).Canonical := canonical_split set.canonical_runs
  have covers_iff : ∀ code, Covers (split set.runs).intervals code ↔ holds code := by
    intro code
    simp [mem_iff]
  tfae_have 1 ↔ 3 := by
    rw [canonical.bounded_iff]
    simp only [covers_iff]
  tfae_have 2 ↔ 3 := by
    simp only [contains_eq_true_iff canonical.wellFormed, covers_iff]
  tfae_finish

end IntervalTable

namespace Database

variable {derived list : String} {version : Version} {classifier : Classifier}

theorem Yields.start_bounded_tfae (yields : Yields derived list version classifier) :
    [classifier.start.Bounded,
      ∀ code, classifier.start.contains code = true → code ≤ maxCodePoint,
      ∀ code, Begins derived list code → code ≤ maxCodePoint].TFAE := by
  obtain ⟨start, continuing, mem_start, _, _, rfl⟩ := yields.exists_ofSets
  exact IntervalTable.bounded_split_tfae mem_start

theorem Yields.continuing_bounded_tfae (yields : Yields derived list version classifier) :
    [classifier.continuing.Bounded,
      ∀ code, classifier.continuing.contains code = true → code ≤ maxCodePoint,
      ∀ code, Continues derived list code → code ≤ maxCodePoint].TFAE := by
  obtain ⟨start, continuing, _, mem_continuing, _, rfl⟩ := yields.exists_ofSets
  exact IntervalTable.bounded_split_tfae mem_continuing

end Database

namespace Generator

open Database (Begins Continues)

variable {setup : Setup} {arguments : List String} {request : Request} {tree : FileTree}

/-- In what a run writes, that every interval of a table ends within the code points, that the table
contains nothing beyond them, and that the texts have nothing beyond them with the property, are the
same.  If this holds of what continues identifiers, it holds of what begins them. -/
theorem run_bounded_tfae (asked : setup.invocation arguments = .run request)
    (succeeded : (run setup arguments tree).1.status = 0) :
    ∃ derived list classifier after,
      tree.readText (FileTree.join request.directory Database.derivedFile) = .ok derived ∧
      tree.readText (FileTree.join request.directory Database.listFile) = .ok list ∧
      run setup arguments tree = (.wrote (setup.outputOf request) classifier, after) ∧
      [classifier.start.Bounded,
        ∀ code, classifier.start.contains code = true → code ≤ maxCodePoint,
        ∀ code, Begins derived list code → code ≤ maxCodePoint].TFAE ∧
      [classifier.continuing.Bounded,
        ∀ code, classifier.continuing.contains code = true → code ≤ maxCodePoint,
        ∀ code, Continues derived list code → code ≤ maxCodePoint].TFAE ∧
      (classifier.continuing.Bounded → classifier.start.Bounded) := by
  obtain ⟨derived, list, version, classifier, after, wrote, emits⟩ :=
    exists_emits_of_status_eq_zero asked succeeded
  have start_tfae := emits.yields.start_bounded_tfae
  have continuing_tfae := emits.yields.continuing_bounded_tfae
  refine ⟨derived, list, classifier, after, emits.derived_read, emits.list_read, wrote, start_tfae,
    continuing_tfae, fun bounded => ?_⟩
  have within := (continuing_tfae.out 0 2).mp bounded
  exact (start_tfae.out 0 2).mpr fun code begins =>
    within code (emits.yields.continues_of_begins begins)

theorem run_bounded_tfae_sample :
    commandLine.invocation sampleArguments = .run sampleRequest ∧
      (run commandLine sampleArguments sampleTree).1.status = 0 ∧
      ∃ derived list classifier after,
        run commandLine sampleArguments sampleTree = (.wrote "out.rs" classifier, after) ∧
        (classifier.continuing.Bounded ↔
          ∀ code, Continues derived list code → code ≤ maxCodePoint) ∧
        (classifier.continuing.Bounded → classifier.start.Bounded) := by
  obtain ⟨derived, list, classifier, after, _, _, wrote, _, continuing_tfae, ordered⟩ :=
    run_bounded_tfae sample_asked sample_succeeded
  exact ⟨sample_asked, sample_succeeded, derived, list, classifier, after, wrote,
    continuing_tfae.out 0 2, ordered⟩

/-- A table of the value after the last code point. -/
def beyondTable : IntervalTable := ⟨[], #[⟨0x110000, 0x110000⟩]⟩

/-- Texts that state this table are accepted, and what is written contains the value. -/
theorem exists_run_beyond_maxCodePoint : ∃ classifier after,
    run commandLine sampleArguments
        (treeWith (Database.derivedOf ⟨13, 0, 0⟩ beyondTable beyondTable) "") =
          (.wrote "out.rs" classifier, after) ∧
      ⟨0x110000, 0x110000⟩ ∈ classifier.start.intervals ∧ ¬ classifier.start.Bounded ∧
      classifier.start.contains 0x110000 = true ∧
      classifier.continuing.contains 0x110000 = true := by
  have canonical : beyondTable.Canonical := by decide
  have states := Database.states_derivedOf ⟨13, 0, 0⟩ beyondTable beyondTable
  obtain ⟨classifier, yields, _, _, start_eq, continuing_eq⟩ :=
    states.exists_yields canonical canonical fun _ covered => covered
  obtain ⟨after, wrote⟩ := exists_run_treeWith yields
  have stored : ⟨0x110000, 0x110000⟩ ∈ beyondTable.intervals := List.mem_cons_self
  have contained : beyondTable.contains 0x110000 = true := by
    rw [IntervalTable.contains_eq_true_iff canonical.wellFormed]
    exact ⟨_, stored, UInt32.le_refl _, UInt32.le_refl _⟩
  refine ⟨classifier, after, wrote, ?_⟩
  rw [start_eq, continuing_eq]
  exact ⟨stored, fun bounded => absurd (bounded _ stored) (by decide), contained, contained⟩

end Generator
end UnicodeIdentifier
