import UnicodeIdentifier.Proofs.Database.Meaning
import UnicodeIdentifier.Proofs.IntervalTable.Members
import UnicodeIdentifier.Proofs.Property.Source

/-!
# Texts that state two tables

Two tables can be written down as data lines, one for each stored interval, in any order.  If the
tables are canonical and what the first holds the second holds, these texts give a classifier with
exactly these tables: lines that touch at the boundary of the views are joined into one run of the
set, and the division cuts this run where it was cut before.
-/

namespace UnicodeIdentifier
namespace Database

variable {derived list : String} {version : Version} {start continuing table : IntervalTable}
  {code : UInt32} {name : String} {line : List Char}

/-- The data lines that give a property to the intervals of a table. -/
def statements (table : IntervalTable) (name : String) : List String :=
  table.intervals.map fun interval => (Property.Entry.mk interval name).source

/-- The first text is made of the header of the version and the data lines of the two tables, in any
order; the second text has no data lines. -/
structure States (derived list : String) (version : Version) (start continuing : IntervalTable) :
    Prop where
  derived_lines : ∃ body, Text.lines derived.toList =
      (Property.header derivedStem version).toList :: body ∧
    body.Perm ((statements start "ID_Start" ++ statements continuing "ID_Continue").map String.toList)
  list_lines : ∀ line ∈ Text.lines list.toList, Property.isSkipped line = true

theorem entryOf?_of_mem_statements (canonical : table.Canonical) (plain : Property.IsPlainName name)
    (member : line ∈ (statements table name).map String.toList) :
    ∃ interval ∈ table.intervals, Property.entryOf? line = some ⟨interval, name⟩ := by
  rw [statements, List.map_map] at member
  obtain ⟨interval, isStored, rfl⟩ := List.mem_map.mp member
  have nonempty := canonical.lo_le_hi interval isStored
  exact ⟨interval, isStored, Property.Entry.entryOf?_source nonempty plain⟩

/-- The statements of a table assign their property to what the table holds, and no other property
to anything. -/
theorem assignedIn_statements {other : String} (canonical : table.Canonical)
    (plain : Property.IsPlainName name) :
    Property.AssignedIn ((statements table name).map String.toList) other code ↔
      name = other ∧ Covers table.intervals code := by
  constructor
  · intro assigned
    obtain ⟨line, member, entry, isEntry, named, within⟩ := assigned
    obtain ⟨interval, isStored, isStatement⟩ := entryOf?_of_mem_statements canonical plain member
    obtain rfl : ⟨interval, name⟩ = entry := Option.some.inj (isStatement.symm.trans isEntry)
    exact ⟨named, interval, isStored, within⟩
  · intro ⟨named, interval, isStored, within⟩
    have nonempty := canonical.lo_le_hi interval isStored
    have isEntry := @Property.Entry.entryOf?_source ⟨interval, name⟩ nonempty plain
    refine ⟨_, List.mem_map_of_mem (List.mem_map_of_mem isStored), _, isEntry, named, within⟩

theorem isPlainName_start : Property.IsPlainName "ID_Start" := by decide

theorem isPlainName_continue : Property.IsPlainName "ID_Continue" := by decide

namespace States

theorem not_isPattern (states : States derived list version start continuing) :
    ¬ IsPattern list code := by
  rw [IsPattern, Property.assigns_iff_assignedIn, Property.assigns_iff_assignedIn, not_or]
  exact ⟨Property.not_assignedIn_of_isSkipped states.list_lines,
    Property.not_assignedIn_of_isSkipped states.list_lines⟩

section

variable (states : States derived list version start continuing) (startCanonical : start.Canonical)
  (continuingCanonical : continuing.Canonical)

include states startCanonical continuingCanonical

theorem acceptable : ∀ line ∈ Text.lines derived.toList, Property.Acceptable line := by
  obtain ⟨body, isLines, perm⟩ := states.derived_lines
  rw [isLines, List.forall_mem_cons]
  refine ⟨Or.inl (Property.isSkipped_header derivedStem version), fun line member => ?_⟩
  rw [perm.mem_iff, List.map_append, List.mem_append] at member
  rw [Property.acceptable_iff_entryOf?]
  rcases member with inStart | inContinuing
  · obtain ⟨_, _, isEntry⟩ := entryOf?_of_mem_statements startCanonical isPlainName_start inStart
    exact Or.inr ⟨_, isEntry⟩
  · obtain ⟨_, _, isEntry⟩ :=
      entryOf?_of_mem_statements continuingCanonical isPlainName_continue inContinuing
    exact Or.inr ⟨_, isEntry⟩

theorem parses : Parses derived list version := by
  obtain ⟨body, isLines, _⟩ := states.derived_lines
  exact ⟨Property.versionOf?_header isLines, states.acceptable startCanonical continuingCanonical,
    fun line member => Or.inl (states.list_lines line member)⟩

theorem assigns_iff : Property.Assigns derived name code ↔
    ("ID_Start" = name ∧ Covers start.intervals code) ∨
      ("ID_Continue" = name ∧ Covers continuing.intervals code) := by
  obtain ⟨body, isLines, perm⟩ := states.derived_lines
  have body_iff : Property.AssignedIn body name code ↔ Property.AssignedIn
      ((statements start "ID_Start" ++ statements continuing "ID_Continue").map String.toList)
      name code := by
    simp only [Property.AssignedIn, perm.mem_iff]
  have noHeader : ¬ Property.AssignedIn [(Property.header derivedStem version).toList] name code :=
    Property.not_assignedIn_of_isSkipped
      (List.forall_mem_singleton.mpr (Property.isSkipped_header derivedStem version))
  rw [Property.assigns_iff_assignedIn, isLines, Property.assignedIn_cons, or_iff_right noHeader,
    body_iff, List.map_append, Property.assignedIn_append,
    assignedIn_statements startCanonical isPlainName_start,
    assignedIn_statements continuingCanonical isPlainName_continue]

theorem begins_iff : Begins derived list code ↔ Covers start.intervals code := by
  rw [Begins, states.assigns_iff startCanonical continuingCanonical,
    and_iff_left states.not_isPattern]
  simp

theorem continues_iff : Continues derived list code ↔ Covers continuing.intervals code := by
  rw [Continues, states.assigns_iff startCanonical continuingCanonical,
    and_iff_left states.not_isPattern]
  simp

/-- Texts that state two tables give the coherent classifier of these tables. -/
theorem exists_yields
    (included : ∀ code, Covers start.intervals code → Covers continuing.intervals code) :
    ∃ classifier, Yields derived list version classifier ∧ classifier.Coherent ∧
      classifier.version = version ∧ classifier.start = start ∧
      classifier.continuing = continuing := by
  have begins_iff : ∀ code, Begins derived list code ↔ Covers start.intervals code := fun _ =>
    states.begins_iff startCanonical continuingCanonical
  have continues_iff : ∀ code, Continues derived list code ↔ Covers continuing.intervals code :=
    fun _ => states.continues_iff startCanonical continuingCanonical
  have parses := states.parses startCanonical continuingCanonical
  obtain ⟨classifier, yields⟩ := parses.exists_yields fun code begins =>
    (continues_iff code).mpr (included code ((begins_iff code).mp begins))
  obtain ⟨starts, continues, mem_start, mem_continuing, _, rfl⟩ := yields.exists_ofSets
  refine ⟨_, yields, yields.coherent, rfl, ?_, ?_⟩
  · exact startCanonical.split_runs_eq fun code => (mem_start code).trans (begins_iff code)
  · exact continuingCanonical.split_runs_eq fun code =>
      (mem_continuing code).trans (continues_iff code)

end

end States

/-- The derived properties that state two tables, in the order of the tables. -/
def derivedOf (version : Version) (start continuing : IntervalTable) : String :=
  Text.ofLines (Property.header derivedStem version ::
    (statements start "ID_Start" ++ statements continuing "ID_Continue"))

theorem isPlain_statements (plain : Property.IsPlainName name) :
    ∀ line ∈ statements table name, Text.IsPlain line.toList := by
  intro line member
  obtain ⟨interval, _, rfl⟩ := List.mem_map.mp member
  exact Property.Entry.isPlain_source plain

theorem states_derivedOf (version : Version) (start continuing : IntervalTable) :
    States (derivedOf version start continuing) "" version start continuing := by
  have plain : ∀ line ∈ Property.header derivedStem version ::
      (statements start "ID_Start" ++ statements continuing "ID_Continue"),
      Text.IsPlain line.toList := by
    rw [List.forall_mem_cons, List.forall_mem_append]
    exact ⟨Property.isPlain_header (by decide), isPlain_statements isPlainName_start,
      isPlain_statements isPlainName_continue⟩
  refine ⟨⟨_, Text.lines_ofLines plain, List.Perm.refl _⟩, fun line member => ?_⟩
  exact absurd member List.not_mem_nil

end Database
end UnicodeIdentifier
