import UnicodeIdentifier.Proofs.Database.Tables
import UnicodeIdentifier.Proofs.FileTree.Agreement
import UnicodeIdentifier.Proofs.Generator
import UnicodeIdentifier.Proofs.Standard

/-!
# Runs on files with the same meaning

Of its two input files a run uses only what they mean.  On trees that differ in these files alone, and
where the files have the same meaning, two runs with the same arguments end with the same report and
write the same bytes.
-/

namespace UnicodeIdentifier
namespace Generator

open Database (EditedInto ReadsAs SameMeaning)

variable {setup : Setup} {arguments : List String} {request : Request} {left right tree : FileTree}
  {derived list otherDerived otherList : String}

/-- The paths that a request reads. -/
def inputsOf (request : Request) : List String :=
  [FileTree.join request.directory Database.derivedFile,
    FileTree.join request.directory Database.listFile]

/-- Two runs end alike: with the same report, and so with the same status and words; with the same
bytes under the output path, if they succeed; and in trees that differ at most in the two inputs. -/
structure EndAlike (setup : Setup) (request : Request) (left right : Report × FileTree) : Prop where
  report_eq : left.1 = right.1
  output_eq : left.1.status = 0 → ∃ contents, left.2.readBytes (setup.outputOf request) = .ok contents ∧
    right.2.readBytes (setup.outputOf request) = .ok contents
  trees : FileTree.SameExcept (inputsOf request) left.2 right.2

theorem exists_readBytes_of_readsAs (reads : ReadsAs tree.readText request.directory derived list) :
    ∀ path ∈ inputsOf request, ∃ contents, tree.readBytes path = .ok contents := by
  rw [inputsOf, List.forall_mem_cons, List.forall_mem_singleton]
  exact ⟨FileTree.exists_readBytes_of_readText reads.derived_read,
    FileTree.exists_readBytes_of_readText reads.list_read⟩

/-- Two runs that agree on the classifier, or on the refusal, end alike. -/
theorem endAlike_of_classifierIn_eq (asked : setup.invocation arguments = .run request)
    (same : FileTree.SameExcept (inputsOf request) left right)
    (shape : FileTree.SameShape left right)
    (classifier_eq : Database.classifierIn left.readText request.directory =
      Database.classifierIn right.readText request.directory) :
    EndAlike setup request (run setup arguments left) (run setup arguments right) := by
  cases made : Database.classifierIn left.readText request.directory with
  | error cause =>
    have otherMade := classifier_eq.symm.trans made
    rw [run_of_classifierIn_error asked made, run_of_classifierIn_error asked otherMade]
    exact ⟨rfl, fun failed => absurd failed Nat.one_ne_zero, same⟩
  | ok classifier =>
    have otherMade := classifier_eq.symm.trans made
    rcases shape.write_alike (setup.outputOf request) classifier.source.toUTF8 with
      ⟨cause, unwritten, otherUnwritten⟩ | ⟨place, noDirectory, written, otherWritten⟩
    · rw [run_of_write_error asked made unwritten, run_of_write_error asked otherMade otherUnwritten]
      exact ⟨rfl, fun failed => absurd failed Nat.one_ne_zero, same⟩
    · rw [run_of_write asked made written, run_of_write asked otherMade otherWritten]
      exact ⟨rfl, fun _ => ⟨_, FileTree.readBytes_of_write written,
        FileTree.readBytes_of_write otherWritten⟩, same.put noDirectory⟩

/-- Runs with the same arguments, on trees that differ at most in the two input files, end alike if
the files have the same meaning; in particular if they can be turned into each other by permuting and
repeating lines, by cutting and merging ranges, and by adding and dropping comments, blank lines and
lines about properties that are not used. -/
theorem run_endAlike (asked : setup.invocation arguments = .run request)
    (same : FileTree.SameExcept (inputsOf request) left right)
    (reads : ReadsAs left.readText request.directory derived list)
    (otherReads : ReadsAs right.readText request.directory otherDerived otherList) :
    (SameMeaning derived list otherDerived otherList →
        EndAlike setup request (run setup arguments left) (run setup arguments right)) ∧
      (EditedInto derived list otherDerived otherList →
        EndAlike setup request (run setup arguments left) (run setup arguments right)) := by
  have shape : FileTree.SameShape left right :=
    same.sameShape (exists_readBytes_of_readsAs reads) (exists_readBytes_of_readsAs otherReads)
  have alike : SameMeaning derived list otherDerived otherList →
      EndAlike setup request (run setup arguments left) (run setup arguments right) := fun sameMeaning =>
    endAlike_of_classifierIn_eq asked same shape (sameMeaning.classifierIn_eq reads otherReads)
  exact ⟨alike, fun edited => alike edited.sameMeaning⟩

/-- A table of three letters. -/
def letters : IntervalTable := ⟨[⟨0x41, 0x43⟩], #[]⟩

/-- The header and the two data lines of a database in which the letters have both properties; the
second data line may be given otherwise. -/
def lettersLines (continueLines : List String) : List String :=
  [Property.header Database.derivedStem ⟨13, 0, 0⟩,
    (Property.Entry.mk ⟨0x41, 0x43⟩ "ID_Start").source] ++ continueLines

/-- The second data line. -/
def wholeLine : String := (Property.Entry.mk ⟨0x41, 0x43⟩ "ID_Continue").source

/-- The second data line in two pieces that overlap. -/
def pieceLines : List String :=
  [(Property.Entry.mk ⟨0x42, 0x43⟩ "ID_Continue").source,
    (Property.Entry.mk ⟨0x41, 0x42⟩ "ID_Continue").source]

theorem derivedOf_letters : Database.derivedOf ⟨13, 0, 0⟩ letters letters =
    Text.ofLines (lettersLines [wholeLine]) := rfl

theorem lines_lettersLines {continueLines : List String}
    (plain : ∀ line ∈ continueLines, Text.IsPlain line.toList) :
    Text.lines (Text.ofLines (lettersLines continueLines)).toList =
      (lettersLines continueLines).map String.toList := by
  apply Text.lines_ofLines
  rw [lettersLines, List.forall_mem_append, List.forall_mem_cons, List.forall_mem_singleton]
  exact ⟨⟨Property.isPlain_header (by decide),
    Property.Entry.isPlain_source Database.isPlainName_start⟩, plain⟩

theorem isPlain_pieceLines : ∀ line ∈ pieceLines, Text.IsPlain line.toList := by
  rw [pieceLines, List.forall_mem_cons, List.forall_mem_singleton]
  exact ⟨Property.Entry.isPlain_source Database.isPlainName_continue,
    Property.Entry.isPlain_source Database.isPlainName_continue⟩

theorem lettersLines_rewritten : Property.Rewritten Database.derivedNames
    ((lettersLines [wholeLine]).map String.toList)
    ((lettersLines pieceLines).map String.toList) := by
  have isEntry : Property.entryOf? wholeLine.toList = some ⟨⟨0x41, 0x43⟩, "ID_Continue"⟩ :=
    Property.Entry.entryOf?_source (by decide) Database.isPlainName_continue
  have arePieces : (pieceLines.map String.toList).map Property.entryOf? =
      [⟨0x42, 0x43⟩, ⟨0x41, 0x42⟩].map fun part => some ⟨part, "ID_Continue"⟩ := by
    simp only [pieceLines, List.map_cons, List.map_nil]
    rw [Property.Entry.entryOf?_source (by decide) Database.isPlainName_continue,
      Property.Entry.entryOf?_source (by decide) Database.isPlainName_continue]
  have covers_iff : ∀ code, Covers [⟨0x42, 0x43⟩, ⟨0x41, 0x42⟩] code ↔
      code ∈ (⟨0x41, 0x43⟩ : Interval) := by
    intro code
    simp only [covers_cons, not_covers_nil, or_false, Interval.mem_mk, UInt32.le_iff_toNat_le,
      UInt32.reduceToNat]
    omega
  have cut : Property.Edit Database.derivedNames
      ([wholeLine.toList] ++ ((lettersLines []).map String.toList ++ []))
      (pieceLines.map String.toList ++ ((lettersLines []).map String.toList ++ [])) :=
    Property.Edit.cut _ isEntry arePieces covers_iff
  simpa [lettersLines] using Property.Rewritten.of_edit_in_front cut

/-- Trees with the same two files differ in these files only. -/
theorem sameExcept_treeWith (derived list otherDerived otherList : String) :
    FileTree.SameExcept (inputsOf sampleRequest) (treeWith derived list)
      (treeWith otherDerived otherList) := by
  refine ⟨rfl, fun place unnamed => ?_⟩
  have notDerived : place ≠ ["UCD", "DerivedCoreProperties.txt"] := by
    rintro rfl
    exact unnamed _ List.mem_cons_self (by rfl)
  have notList : place ≠ ["UCD", "PropList.txt"] := by
    rintro rfl
    exact unnamed _ (List.mem_cons_of_mem _ List.mem_cons_self) (by rfl)
  cases place with
  | nil => rfl
  | cons name names =>
    simp only [FileTree.node?, treeWith, List.lookup_cons, beq_eq_false_iff_ne.mpr notDerived,
      beq_eq_false_iff_ne.mpr notList]

theorem readsAs_treeWith (derived list : String) :
    ReadsAs (treeWith derived list).readText sampleRequest.directory derived list :=
  ⟨(readText_treeWith derived list).1, (readText_treeWith derived list).2⟩

/-- The run on a database, and the run on the database with one line cut and a blank line added. -/
theorem run_endAlike_sample : EndAlike commandLine sampleRequest
    (run commandLine sampleArguments (treeWith (Text.ofLines (lettersLines [wholeLine])) ""))
    (run commandLine sampleArguments (treeWith (Text.ofLines (lettersLines pieceLines)) "\n")) := by
  have wholePlain : ∀ line ∈ [wholeLine], Text.IsPlain line.toList := by
    rw [List.forall_mem_singleton]
    exact Property.Entry.isPlain_source Database.isPlainName_continue
  have wholeLines := lines_lettersLines wholePlain
  have editedLines := lines_lettersLines isPlain_pieceLines
  have canonical : letters.Canonical := by decide
  have parses : Database.Parses (Text.ofLines (lettersLines [wholeLine])) "" ⟨13, 0, 0⟩ := by
    rw [← derivedOf_letters]
    exact (Database.states_derivedOf ⟨13, 0, 0⟩ letters letters).parses canonical canonical
  have derivedEdits : Property.Rewritten Database.derivedNames
      (Text.lines (Text.ofLines (lettersLines [wholeLine])).toList)
      (Text.lines (Text.ofLines (lettersLines pieceLines)).toList) := by
    rw [wholeLines, editedLines]
    exact lettersLines_rewritten
  have listEdits : Property.Rewritten Database.listNames (Text.lines "".toList)
      (Text.lines "\n".toList) :=
    Relation.EqvGen.rel [] [[]] (Property.Edit.comment [] (by decide))
  have reads := readText_treeWith (Text.ofLines (lettersLines [wholeLine])) ""
  have otherReads := readText_treeWith (Text.ofLines (lettersLines pieceLines)) "\n"
  exact (run_endAlike sample_asked (sameExcept_treeWith _ _ _ _) ⟨reads.1, reads.2⟩
    ⟨otherReads.1, otherReads.2⟩).2
    ⟨⟨_, parses, Property.versionOf?_header editedLines⟩, derivedEdits, listEdits⟩

end Generator
end UnicodeIdentifier
