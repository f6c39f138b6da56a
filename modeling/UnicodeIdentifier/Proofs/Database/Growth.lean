import UnicodeIdentifier.Proofs.Database.Meaning
import UnicodeIdentifier.Proofs.IntervalTable.Members
import UnicodeIdentifier.Proofs.Property.Growth

/-!
# Texts that go on

Data lines behind the property list can only make more values pattern characters.  They take the same
values from what begins and from what continues an identifier, so the one remains a part of the other
and a classifier is still made.  Data lines behind the derived properties that say what continues an
identifier take nothing away and leave alone what begins one.
-/

namespace UnicodeIdentifier

/-- In either view the first table holds only what the second holds. -/
structure IntervalTable.Within (table other : IntervalTable) : Prop where
  narrow_subset : ∀ code, Covers table.narrow code → Covers other.narrow code
  wide_subset : ∀ code, Covers table.wide.toList code → Covers other.wide.toList code

theorem IntervalTable.Divided.within {table other : IntervalTable} (divided : table.Divided)
    (otherDivided : other.Divided)
    (subset : ∀ code, Covers table.intervals code → Covers other.intervals code) :
    table.Within other := by
  constructor
  · intro code covered
    obtain ⟨inTable, low⟩ := divided.covers_narrow_iff.mp covered
    exact otherDivided.covers_narrow_iff.mpr ⟨subset code inTable, low⟩
  · intro code covered
    obtain ⟨inTable, high⟩ := divided.covers_wide_iff.mp covered
    exact otherDivided.covers_wide_iff.mpr ⟨subset code inTable, high⟩

namespace Classifier

/-- The tables and the masks of the first classifier hold only what those of the second hold. -/
structure Within (classifier other : Classifier) : Prop where
  start : classifier.start.Within other.start
  continuing : classifier.continuing.Within other.continuing
  startMask : ∀ code < AsciiMask.limit, classifier.startMask.contains code = true →
    other.startMask.contains code = true
  continueMask : ∀ code < AsciiMask.limit, classifier.continueMask.contains code = true →
    other.continueMask.contains code = true

variable {classifier other : Classifier}

theorem Coherent.within (coherent : classifier.Coherent) (otherCoherent : other.Coherent)
    (start_subset : ∀ code, Covers classifier.start.intervals code →
      Covers other.start.intervals code)
    (continuing_subset : ∀ code, Covers classifier.continuing.intervals code →
      Covers other.continuing.intervals code) : classifier.Within other where
  start := coherent.start_wellFormed.toDivided.within otherCoherent.start_wellFormed.toDivided
    start_subset
  continuing := coherent.continuing_wellFormed.toDivided.within
    otherCoherent.continuing_wellFormed.toDivided continuing_subset
  startMask code ascii := by
    rw [coherent.startMask_contains code ascii, otherCoherent.startMask_contains code ascii]
    exact Or.imp_left (start_subset code)
  continueMask code ascii := by
    rw [coherent.continueMask_contains code ascii, otherCoherent.continueMask_contains code ascii]
    exact Or.imp_left (continuing_subset code)

end Classifier

namespace Database

variable {derived list block grown otherDerived otherList : String} {version : Version}
  {classifier other : Classifier} {code : UInt32}

/-- Texts that describe smaller sets give a smaller classifier. -/
theorem Yields.within (yields : Yields derived list version classifier)
    (otherYields : Yields otherDerived otherList version other)
    (begins : ∀ code, Begins derived list code → Begins otherDerived otherList code)
    (continues : ∀ code, Continues derived list code → Continues otherDerived otherList code) :
    classifier.Within other := by
  apply yields.coherent.within otherYields.coherent
  · intro code covered
    exact otherYields.covers_start_iff.mpr (begins code (yields.covers_start_iff.mp covered))
  · intro code covered
    exact otherYields.covers_continuing_iff.mpr
      (continues code (yields.covers_continuing_iff.mp covered))

/-- Texts that let the same values begin an identifier agree on the table and the mask of these. -/
theorem Yields.start_eq (yields : Yields derived list version classifier)
    (otherYields : Yields otherDerived otherList version other)
    (same : ∀ code, Begins derived list code ↔ Begins otherDerived otherList code) :
    classifier.start = other.start ∧ classifier.startMask = other.startMask := by
  obtain ⟨start, continuing, mem_start, _, _, rfl⟩ := yields.exists_ofSets
  obtain ⟨otherStart, otherContinuing, mem_otherStart, _, _, rfl⟩ := otherYields.exists_ofSets
  have start_eq : start = otherStart := by
    apply CodeSet.eq_of_mem_iff
    intro code
    rw [mem_start, mem_otherStart, same]
  subst start_eq
  exact ⟨rfl, rfl⟩

section

variable (grows : Text.Grown list.toList block.toList grown.toList)

include grows

theorem isPattern_grown_iff : IsPattern grown code ↔ IsPattern list code ∨ IsPattern block code := by
  rw [IsPattern, Property.assigns_grown_iff grows, Property.assigns_grown_iff grows, IsPattern,
    IsPattern, or_or_or_comm]

theorem begins_list_grown_iff :
    Begins derived grown code ↔ Begins derived list code ∧ ¬ IsPattern block code := by
  rw [Begins, Begins, isPattern_grown_iff grows, not_or, and_assoc]

theorem continues_list_grown_iff :
    Continues derived grown code ↔ Continues derived list code ∧ ¬ IsPattern block code := by
  rw [Continues, Continues, isPattern_grown_iff grows, not_or, and_assoc]

/-- With more data in the property list a classifier is still made, and it is a part of the one that was
made before. -/
theorem Yields.exists_list_grown (yields : Yields derived list version classifier)
    (data : Property.HasData block fun _ => True) :
    ∃ narrowed, Yields derived grown version narrowed ∧ narrowed.Within classifier := by
  have parses : Parses derived grown version :=
    ⟨yields.parses.named, yields.parses.derived_acceptable,
      (Property.acceptable_grown_iff grows).mpr ⟨yields.parses.list_acceptable, data.acceptable⟩⟩
  have included : ∀ code, Begins derived grown code → Continues derived grown code := by
    intro code begins
    obtain ⟨begins, noPattern⟩ := (begins_list_grown_iff grows).mp begins
    exact (continues_list_grown_iff grows).mpr ⟨yields.continues_of_begins begins, noPattern⟩
  obtain ⟨narrowed, narrowedYields⟩ := parses.exists_yields included
  refine ⟨narrowed, narrowedYields, narrowedYields.within yields ?_ ?_⟩
  · exact fun code begins => ((begins_list_grown_iff grows).mp begins).1
  · exact fun code continues => ((continues_list_grown_iff grows).mp continues).1

end

section

variable (grows : Text.Grown derived.toList block.toList grown.toList)
  (data : Property.HasData block fun entry => entry.name = "ID_Continue")

include grows

theorem continues_derived_grown (continues : Continues derived list code) :
    Continues grown list code :=
  ⟨(Property.assigns_grown_iff grows).mpr (Or.inl continues.1), continues.2⟩

include data

theorem begins_derived_grown_iff : Begins grown list code ↔ Begins derived list code := by
  have notAssigned : ¬ Property.Assigns block "ID_Start" code := by
    intro assigned
    obtain ⟨entry, isContinue, isStart, _⟩ := data.exists_of_assigns assigned
    exact absurd (isContinue.symm.trans isStart) (by decide)
  rw [Begins, Begins, Property.assigns_grown_iff grows, or_iff_left notAssigned]

/-- With more data about what continues an identifier a classifier is still made.  What begins an
identifier is stored in it as before, and the classifier that was made before is a part of it. -/
theorem Yields.exists_derived_grown (yields : Yields derived list version classifier) :
    ∃ widened, Yields grown list version widened ∧ widened.start = classifier.start ∧
      widened.startMask = classifier.startMask ∧ classifier.Within widened := by
  have parses : Parses grown list version :=
    ⟨Property.versionOf?_grown grows yields.parses.named,
      (Property.acceptable_grown_iff grows).mpr ⟨yields.parses.derived_acceptable, data.acceptable⟩,
      yields.parses.list_acceptable⟩
  have begins_iff : ∀ code, Begins grown list code ↔ Begins derived list code := fun _ =>
    begins_derived_grown_iff grows data
  have included : ∀ code, Begins grown list code → Continues grown list code := fun code begins =>
    continues_derived_grown grows (yields.continues_of_begins ((begins_iff code).mp begins))
  obtain ⟨widened, widenedYields⟩ := parses.exists_yields included
  obtain ⟨start_eq, startMask_eq⟩ := widenedYields.start_eq yields begins_iff
  exact ⟨widened, widenedYields, start_eq, startMask_eq, yields.within widenedYields
    (fun code => (begins_iff code).mpr) fun _ => continues_derived_grown grows⟩

end

end Database
end UnicodeIdentifier
