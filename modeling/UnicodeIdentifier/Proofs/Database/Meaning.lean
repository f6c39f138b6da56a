import UnicodeIdentifier.Proofs.Database
import UnicodeIdentifier.Proofs.Property.Edit

/-!
# What two texts mean

Two texts that parse without error mean a version and two sets of values, and nothing else of them
reaches the classifier: pairs of texts with the same meaning give the same classifier, or are refused
for the same value.  Edits of the lines that keep what they say keep the meaning.
-/

namespace UnicodeIdentifier
namespace Database

variable {derived list otherDerived otherList directory : String} {version : Version} {code : UInt32}
  {read otherRead : String → Except FileError String}
  {derivedEntries listEntries otherDerivedEntries otherListEntries : List Property.Entry}
  {classifier : Classifier}

/-- The two texts parse without error, and the first names the version. -/
structure Parses (derived list : String) (version : Version) : Prop where
  named : Property.versionOf? derivedStem.toList derived.toList = some version
  derived_acceptable : ∀ line ∈ Text.lines derived.toList, Property.Acceptable line
  list_acceptable : ∀ line ∈ Text.lines list.toList, Property.Acceptable line

/-- A reader of files gives the two texts of a directory. -/
structure ReadsAs (read : String → Except FileError String) (directory derived list : String) :
    Prop where
  derived_read : read (FileTree.join directory derivedFile) = .ok derived
  list_read : read (FileTree.join directory listFile) = .ok list

theorem Parses.exists_entries (parses : Parses derived list version) :
    ∃ derivedEntries listEntries, Property.entries derived.toList = .ok derivedEntries ∧
      Property.entries list.toList = .ok listEntries :=
  ⟨_, _, Property.entries_eq_ok_iff.mpr ⟨parses.derived_acceptable, rfl⟩,
    Property.entries_eq_ok_iff.mpr ⟨parses.list_acceptable, rfl⟩⟩

/-- What remains to be done with the texts of a directory is to parse them, the derived properties
first, and to judge the sets that they describe. -/
theorem ReadsAs.classifierIn_eq (reads : ReadsAs read directory derived list) :
    classifierIn read directory = (ofDerived derived >>= fun parsed => ofList list >>= fun entries =>
      classifierOf parsed.1 (startOf parsed.2 entries) (continuingOf parsed.2 entries)) := by
  rw [Database.classifierIn_eq, contentsOf_eq_ok_iff.mpr reads.derived_read,
    contentsOf_eq_ok_iff.mpr reads.list_read]
  rfl

/-- Texts that parse have entries, and the classifier of their directory is judged by the sets of these
entries alone. -/
theorem Parses.exists_classifierIn_eq (parses : Parses derived list version)
    (reads : ReadsAs read directory derived list) :
    ∃ derivedEntries listEntries, Property.entries derived.toList = .ok derivedEntries ∧
      Property.entries list.toList = .ok listEntries ∧
      classifierIn read directory = classifierOf version (startOf derivedEntries listEntries)
        (continuingOf derivedEntries listEntries) := by
  obtain ⟨derivedEntries, listEntries, derivedRead, listRead⟩ := parses.exists_entries
  have isDerived := ofDerived_eq_ok_iff.mpr ⟨parses.named, derivedRead⟩
  have isList : ofList list = .ok listEntries := entriesOf_eq_ok_iff.mpr listRead
  refine ⟨derivedEntries, listEntries, derivedRead, listRead, ?_⟩
  rw [reads.classifierIn_eq, isDerived, isList]
  rfl

theorem Yields.parses (yields : Yields derived list version classifier) :
    Parses derived list version := by
  obtain ⟨named, _, _, derivedRead, listRead, _⟩ := yields
  exact ⟨named, (Property.entries_eq_ok_iff.mp derivedRead).1,
    (Property.entries_eq_ok_iff.mp listRead).1⟩

theorem Parses.exists_yields (parses : Parses derived list version)
    (included : ∀ code, Begins derived list code → Continues derived list code) :
    ∃ classifier, Yields derived list version classifier := by
  obtain ⟨derivedEntries, listEntries, derivedRead, listRead⟩ := parses.exists_entries
  have subset : ∀ code, code ∈ startOf derivedEntries listEntries →
      code ∈ continuingOf derivedEntries listEntries := fun code member =>
    (mem_continuingOf derivedRead listRead).mpr
      (included code ((mem_startOf derivedRead listRead).mp member))
  exact ⟨_, parses.named, _, _, derivedRead, listRead, classifierOf_eq_ok_iff.mpr ⟨subset, rfl⟩⟩

/-- Both pairs of texts parse, with one version, and describe the same two sets. -/
structure SameMeaning (derived list otherDerived otherList : String) : Prop where
  parses : ∃ version, Parses derived list version ∧ Parses otherDerived otherList version
  begins_iff : ∀ code, Begins derived list code ↔ Begins otherDerived otherList code
  continues_iff : ∀ code, Continues derived list code ↔ Continues otherDerived otherList code

/-- The classifier, or the cause of refusal, depends on the meaning only. -/
theorem SameMeaning.classifierIn_eq (same : SameMeaning derived list otherDerived otherList)
    (reads : ReadsAs read directory derived list)
    (otherReads : ReadsAs otherRead directory otherDerived otherList) :
    classifierIn read directory = classifierIn otherRead directory := by
  obtain ⟨version, parses, otherParses⟩ := same.parses
  obtain ⟨derivedEntries, listEntries, derivedRead, listRead, isMade⟩ :=
    parses.exists_classifierIn_eq reads
  obtain ⟨otherDerivedEntries, otherListEntries, otherDerivedRead, otherListRead, otherMade⟩ :=
    otherParses.exists_classifierIn_eq otherReads
  have start_eq : startOf derivedEntries listEntries =
      startOf otherDerivedEntries otherListEntries := by
    apply CodeSet.eq_of_mem_iff
    intro code
    rw [mem_startOf derivedRead listRead, mem_startOf otherDerivedRead otherListRead,
      same.begins_iff]
  have continuing_eq : continuingOf derivedEntries listEntries =
      continuingOf otherDerivedEntries otherListEntries := by
    apply CodeSet.eq_of_mem_iff
    intro code
    rw [mem_continuingOf derivedRead listRead, mem_continuingOf otherDerivedRead otherListRead,
      same.continues_iff]
  rw [isMade, otherMade, start_eq, continuing_eq]

/-- The names of the properties that are used of the derived properties. -/
def derivedNames : List String := ["ID_Start", "ID_Continue"]

/-- The names of the properties that are used of the property list. -/
def listNames : List String := ["Pattern_Syntax", "Pattern_White_Space"]

/-- The first two texts parse, and edits of their lines that keep the version lead to the other two. -/
structure EditedInto (derived list otherDerived otherList : String) : Prop where
  parses : ∃ version, Parses derived list version ∧
    Property.versionOf? derivedStem.toList otherDerived.toList = some version
  derived_edits : Property.Rewritten derivedNames (Text.lines derived.toList)
    (Text.lines otherDerived.toList)
  list_edits : Property.Rewritten listNames (Text.lines list.toList) (Text.lines otherList.toList)

/-- Edits keep the meaning. -/
theorem EditedInto.sameMeaning (edited : EditedInto derived list otherDerived otherList) :
    SameMeaning derived list otherDerived otherList := by
  obtain ⟨version, parses, named⟩ := edited.parses
  have derivedSame := edited.derived_edits.saysSame
  have listSame := edited.list_edits.saysSame
  have assigns_iff : ∀ name ∈ derivedNames, ∀ code,
      Property.Assigns derived name code ↔ Property.Assigns otherDerived name code := by
    intro name member code
    rw [Property.assigns_iff_assignedIn, Property.assigns_iff_assignedIn,
      derivedSame.assignedIn_iff name member]
  have isPattern_iff : ∀ code, IsPattern list code ↔ IsPattern otherList code := by
    intro code
    simp only [IsPattern, Property.assigns_iff_assignedIn]
    rw [listSame.assignedIn_iff _ List.mem_cons_self,
      listSame.assignedIn_iff _ (List.mem_cons_of_mem _ List.mem_cons_self)]
  have otherParses : Parses otherDerived otherList version :=
    ⟨named, derivedSame.acceptable_iff.mp parses.derived_acceptable,
      listSame.acceptable_iff.mp parses.list_acceptable⟩
  refine ⟨⟨version, parses, otherParses⟩, fun code => ?_, fun code => ?_⟩
  · rw [Begins, Begins, assigns_iff _ List.mem_cons_self, isPattern_iff]
  · rw [Continues, Continues, assigns_iff _ (List.mem_cons_of_mem _ List.mem_cons_self),
      isPattern_iff]

end Database
end UnicodeIdentifier
