import UnicodeIdentifier.Proofs.Generator

/-!
# What a run changes

A run reads from the tree as it goes and undoes nothing when it fails.  Since its only write comes after
everything else that can fail, a run that fails leaves the tree as it was, and one that succeeds makes or
replaces one file, even if that is a file that it has read.
-/

namespace UnicodeIdentifier
namespace Generator

open Database (Yields)

variable {setup : Setup} {arguments : List String} {request : Request} {tree after : FileTree}
  {derived list : String} {version : Version} {classifier : Classifier} {cause : Failure}

/-- What a run that was asked to write and ends with status zero has read and changed. -/
structure Replaces (setup : Setup) (request : Request) (tree : FileTree) (derived list : String)
    (classifier : Classifier) (place : Place) (after : FileTree) : Prop where
  derived_read :
    tree.readText (FileTree.join request.directory Database.derivedFile) = .ok derived
  list_read : tree.readText (FileTree.join request.directory Database.listFile) = .ok list
  yields : ∃ version, Yields derived list version classifier
  place_eq : tree.resolve (setup.outputOf request) = .ok place
  rewrites : FileTree.Rewrites place classifier.source.toUTF8 tree after

/-- A run that does not end with status zero changes nothing. -/
theorem tree_eq_of_status_ne_zero (failed : (run setup arguments tree).1.status ≠ 0) :
    (run setup arguments tree).2 = tree := by
  cases asked : setup.invocation arguments with
  | help =>
    rw [run, execute, asked]
    rfl
  | misuse =>
    rw [run, execute, asked]
    rfl
  | run request =>
    rcases outcomeOn_cases setup request tree with ended | ⟨cause, unperformed⟩
    · exact absurd ((status_eq_zero_iff asked).mpr ended) failed
    · rw [run_of_outcomeOn_error asked unperformed]

/-- Arguments that are not for help and do not fail are a request. -/
theorem exists_request_of_status_eq_zero (succeeded : (run setup arguments tree).1.status = 0)
    (noHelp : setup.invocation arguments ≠ .help) :
    ∃ request, setup.invocation arguments = .run request := by
  cases asked : setup.invocation arguments with
  | help => exact absurd asked noHelp
  | misuse =>
    rw [run, execute, asked] at succeeded
    cases succeeded
  | run request => exact ⟨request, rfl⟩

theorem outputOf_commandLine (request : Request) :
    commandLine.outputOf request = request.output.getD "generate/../src/tables.rs" := by
  have usual : FileTree.join "generate" "../src/tables.rs" = "generate/../src/tables.rs" := by
    decide +kernel
  rw [Setup.outputOf, commandLine, usual]

/-- If a run fails, it leaves the tree as it was.  If it succeeds and was not asked for help, it makes or
replaces the file to which the output path leads and changes nothing else; the file then holds the source
of the classifier of the two texts that were there before, even where it has taken the place of one of
them.  On the command line the path is the one that was asked for or the usual one. -/
theorem run_replaces_only_output (setup : Setup) (arguments : List String) (tree : FileTree) :
    ((run setup arguments tree).1.status ≠ 0 → (run setup arguments tree).2 = tree) ∧
      ((run setup arguments tree).1.status = 0 → setup.invocation arguments ≠ .help →
        ∃ request derived list classifier place,
          setup.invocation arguments = .run request ∧
          Replaces setup request tree derived list classifier place
            (run setup arguments tree).2) ∧
      ∀ request, commandLine.outputOf request =
        request.output.getD "generate/../src/tables.rs" := by
  refine ⟨tree_eq_of_status_ne_zero, fun succeeded noHelp => ?_, outputOf_commandLine⟩
  obtain ⟨request, asked⟩ := exists_request_of_status_eq_zero succeeded noHelp
  obtain ⟨derived, list, version, classifier, after, wrote, emits⟩ :=
    exists_emits_of_status_eq_zero asked succeeded
  obtain ⟨place, resolved, rewrites⟩ := FileTree.exists_rewrites_of_write emits.written
  rw [wrote]
  exact ⟨request, derived, list, classifier, place, asked, emits.derived_read, emits.list_read,
    ⟨version, emits.yields⟩, resolved, rewrites⟩

/-- Ask for the classifier in the place of one of the files that it is made from. -/
def overwritingArguments : List String := ["UCD", "--output", "UCD/PropList.txt"]

/-- What the arguments amount to. -/
def overwritingRequest : Request := ⟨"UCD", some "UCD/PropList.txt"⟩

theorem overwriting_asked : commandLine.invocation overwritingArguments = .run overwritingRequest := by
  rfl

theorem overwriting_succeeded :
    (run commandLine overwritingArguments (treeWith sampleDerived sampleList)).1.status = 0 := by
  obtain ⟨classifier, yields⟩ := exists_sample_yields
  obtain ⟨derivedRead, listRead⟩ := readText_treeWith sampleDerived sampleList
  have made := Database.classifierIn_eq_ok_iff.mpr
    ⟨sampleDerived, sampleList, _, derivedRead, listRead, yields⟩
  have aimed : (treeWith sampleDerived sampleList).target (commandLine.outputOf overwritingRequest) =
      .ok ["UCD", "PropList.txt"] := by rfl
  have isFile : (treeWith sampleDerived sampleList).node? ["UCD", "PropList.txt"] =
      some (.file sampleList.toUTF8) := by rfl
  have written := FileTree.write_eq_ok_iff.mpr
    ⟨_, aimed, by simp [isFile], Eq.refl (FileTree.put _ _ (.file classifier.source.toUTF8))⟩
  rw [run_of_write overwriting_asked made written]
  rfl

/-- A run may replace a file that it has read. -/
theorem run_replaces_only_output_overwriting : ∃ classifier,
    (run commandLine overwritingArguments (treeWith sampleDerived sampleList)).1.status = 0 ∧
      Replaces commandLine overwritingRequest (treeWith sampleDerived sampleList) sampleDerived
        sampleList classifier ["UCD", "PropList.txt"]
        (run commandLine overwritingArguments (treeWith sampleDerived sampleList)).2 := by
  obtain ⟨_, replaced, _⟩ :=
    run_replaces_only_output commandLine overwritingArguments (treeWith sampleDerived sampleList)
  obtain ⟨request, derived, list, classifier, place, asked, replaces⟩ :=
    replaced overwriting_succeeded (by rw [overwriting_asked]; nofun)
  obtain rfl := Invocation.run.inj (overwriting_asked.symm.trans asked)
  obtain ⟨derivedRead, listRead⟩ := readText_treeWith sampleDerived sampleList
  obtain rfl := Except.ok.inj (derivedRead.symm.trans replaces.derived_read)
  obtain rfl := Except.ok.inj (listRead.symm.trans replaces.list_read)
  have resolved : (treeWith sampleDerived sampleList).resolve "UCD/PropList.txt" =
      .ok ["UCD", "PropList.txt"] := by rfl
  obtain rfl := Except.ok.inj (resolved.symm.trans replaces.place_eq)
  exact ⟨classifier, overwriting_succeeded, replaces⟩

end Generator
end UnicodeIdentifier
