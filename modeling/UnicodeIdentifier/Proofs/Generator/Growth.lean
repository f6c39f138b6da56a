import UnicodeIdentifier.Proofs.Database.Growth
import UnicodeIdentifier.Proofs.Generator.Meaning

/-!
# Runs on a database that has grown

After a run that succeeded, data lines may be put behind either input file.  With more lines in the
property list the next run succeeds and writes tables that hold no new values.  With more lines about
what continues an identifier it succeeds, writes the table of what begins one as before, and loses none
of the others.  All that is asked of the next run is that its output can be written.
-/

namespace UnicodeIdentifier
namespace Generator

open Database (ReadsAs Yields)

variable {setup : Setup} {arguments : List String} {request : Request} {tree : FileTree}
  {derived list : String} {version : Version} {classifier : Classifier}

/-- The run of the request on the tree succeeds and writes the source of the classifier. -/
def Writes (setup : Setup) (arguments : List String) (request : Request) (tree : FileTree)
    (classifier : Classifier) : Prop :=
  ∃ after, run setup arguments tree = (.wrote (setup.outputOf request) classifier, after) ∧
    after.readText (setup.outputOf request) = .ok classifier.source

theorem writes_of_yields (asked : setup.invocation arguments = .run request)
    (reads : ReadsAs tree.readText request.directory derived list)
    (writable : tree.Writable (setup.outputOf request))
    (yields : Yields derived list version classifier) :
    Writes setup arguments request tree classifier := by
  have made := Database.classifierIn_eq_ok_iff.mpr
    ⟨derived, list, version, reads.derived_read, reads.list_read, yields⟩
  obtain ⟨after, written⟩ := writable.exists_write classifier.source.toUTF8
  exact ⟨after, run_of_write asked made written, FileTree.readText_of_write written⟩

/-- A run that succeeded has written the classifier that the texts give. -/
theorem exists_writes_of_status_eq_zero (asked : setup.invocation arguments = .run request)
    (reads : ReadsAs tree.readText request.directory derived list)
    (succeeded : (run setup arguments tree).1.status = 0) :
    ∃ version classifier, Yields derived list version classifier ∧
      Writes setup arguments request tree classifier := by
  obtain ⟨foundDerived, foundList, version, classifier, after, wrote, emits⟩ :=
    exists_emits_of_status_eq_zero asked succeeded
  obtain rfl : foundDerived = derived :=
    Except.ok.inj (emits.derived_read.symm.trans reads.derived_read)
  obtain rfl : foundList = list := Except.ok.inj (emits.list_read.symm.trans reads.list_read)
  exact ⟨version, classifier, emits.yields, after, wrote, FileTree.readText_of_write emits.written⟩

/-- After a run that succeeded, with the same arguments and on any tree in which the output can be
written: if data lines were put behind the property list, the run succeeds and writes a part of the
classifier; if data lines about what continues an identifier were put behind the derived properties, it
succeeds and writes a classifier of which the former is a part and in which what begins an identifier is
stored as before. -/
theorem run_monotone (asked : setup.invocation arguments = .run request)
    (reads : ReadsAs tree.readText request.directory derived list)
    (succeeded : (run setup arguments tree).1.status = 0) :
    ∃ classifier, Writes setup arguments request tree classifier ∧
      (∀ (block grown : String) (other : FileTree),
        Text.Grown list.toList block.toList grown.toList →
        Property.HasData block (fun _ => True) →
        ReadsAs other.readText request.directory derived grown →
        other.Writable (setup.outputOf request) →
        ∃ narrowed, Writes setup arguments request other narrowed ∧ narrowed.Within classifier) ∧
      ∀ (block grown : String) (other : FileTree),
        Text.Grown derived.toList block.toList grown.toList →
        Property.HasData block (fun entry => entry.name = "ID_Continue") →
        ReadsAs other.readText request.directory grown list →
        other.Writable (setup.outputOf request) →
        ∃ widened, Writes setup arguments request other widened ∧ widened.start = classifier.start ∧
          widened.startMask = classifier.startMask ∧ classifier.Within widened := by
  obtain ⟨version, classifier, yields, writes⟩ := exists_writes_of_status_eq_zero asked reads succeeded
  refine ⟨classifier, writes, ?_, ?_⟩
  · intro block grown other grows data otherReads writable
    obtain ⟨narrowed, narrowedYields, within⟩ := yields.exists_list_grown grows data
    exact ⟨narrowed, writes_of_yields asked otherReads writable narrowedYields, within⟩
  · intro block grown other grows data otherReads writable
    obtain ⟨widened, widenedYields, start_eq, startMask_eq, within⟩ :=
      yields.exists_derived_grown grows data
    exact ⟨widened, writes_of_yields asked otherReads writable widenedYields, start_eq, startMask_eq,
      within⟩

/-- A data line that makes all letters of the small database pattern characters, so that nothing is left
in either table. -/
def patternBlock : String := "0041..0100 ; Pattern_White_Space # A\r\n"

/-- An unended data line about values on both sides of the boundary of the views. -/
def continueBlock : String := "00F0..0110 ; ID_Continue"

theorem hasData_patternBlock : Property.HasData patternBlock fun _ => True := by
  have lines_eq : Text.lines patternBlock.toList = ["0041..0100 ; Pattern_White_Space # A".toList] := by
    decide
  rw [Property.HasData, lines_eq, List.forall_mem_singleton]
  exact ⟨⟨⟨0x41, 0x100⟩, "Pattern_White_Space"⟩, by decide, trivial⟩

theorem hasData_continueBlock :
    Property.HasData continueBlock fun entry => entry.name = "ID_Continue" := by
  have lines_eq : Text.lines continueBlock.toList = [continueBlock.toList] := by decide
  rw [Property.HasData, lines_eq, List.forall_mem_singleton]
  exact ⟨⟨⟨0xF0, 0x110⟩, "ID_Continue"⟩, by decide, rfl⟩

theorem writable_treeWith (derived list : String) :
    (treeWith derived list).Writable (commandLine.outputOf sampleRequest) :=
  ⟨ByteArray.empty, _, write_treeWith derived list ByteArray.empty⟩

/-- The runs on the small database and with either block behind its file. -/
theorem run_monotone_sample : ∃ classifier,
    Writes commandLine sampleArguments sampleRequest (treeWith sampleDerived sampleList) classifier ∧
      (∃ narrowed, Writes commandLine sampleArguments sampleRequest
        (treeWith sampleDerived (sampleList ++ patternBlock)) narrowed ∧
        narrowed.Within classifier) ∧
      ∃ widened, Writes commandLine sampleArguments sampleRequest
        (treeWith (sampleDerived ++ continueBlock) sampleList) widened ∧
        widened.start = classifier.start ∧ widened.startMask = classifier.startMask ∧
        classifier.Within widened := by
  have listGrows : Text.Grown sampleList.toList patternBlock.toList
      (sampleList ++ patternBlock).toList := by
    rw [String.toList_append, show sampleList.toList = _ from String.toList_ofList]
    exact .behind fun last isLast => (Option.some.inj isLast).symm
  have derivedGrows : Text.Grown sampleDerived.toList continueBlock.toList
      (sampleDerived ++ continueBlock).toList := by
    rw [String.toList_append, show sampleDerived.toList = _ from String.toList_ofList]
    exact .behind fun last isLast => (Option.some.inj isLast).symm
  obtain ⟨classifier, writes, narrows, widens⟩ :=
    run_monotone sample_asked (readsAs_treeWith sampleDerived sampleList) sample_succeeded
  exact ⟨classifier, writes,
    narrows _ _ _ listGrows hasData_patternBlock (readsAs_treeWith _ _) (writable_treeWith _ _),
    widens _ _ _ derivedGrows hasData_continueBlock (readsAs_treeWith _ _) (writable_treeWith _ _)⟩

end Generator
end UnicodeIdentifier
