import UnicodeIdentifier.CommandLine
import UnicodeIdentifier.Generator
import UnicodeIdentifier.Proofs.Database
import UnicodeIdentifier.Proofs.FileTree

/-!
# Runs that write a classifier

A run succeeds exactly when both files can be read, their texts give a classifier and the output can
be written.  What it writes is the source of that classifier, whose answers are those of the two sets
that the texts describe.
-/

namespace UnicodeIdentifier
namespace Generator

open Database (Begins Continues Yields)

variable {setup : Setup} {arguments : List String} {request : Request} {tree after : FileTree}
  {path : String} {classifier : Classifier} {derived list : String} {version : Version}
  {cause : Failure} {fileError : FileError}

/-- What comes of carrying out a request on a tree, and the tree that it leaves. -/
def outcomeOn (setup : Setup) (request : Request) (tree : FileTree) :
    Except Failure Classifier × FileTree :=
  Work.on (perform FileTree.files setup request) tree

/-- The tree is only looked at until the classifier is made, and is then written to once. -/
theorem outcomeOn_eq : outcomeOn setup request tree =
    match Database.classifierIn tree.readText request.directory with
    | .error cause => (.error cause, tree)
    | .ok classifier =>
      match tree.write (setup.outputOf request) classifier.source.toUTF8 with
      | .error fileError => (.error (.unwritable (setup.outputOf request) fileError), tree)
      | .ok after => (.ok classifier, after) := by
  rw [outcomeOn, perform, Work.on_bind, Database.looks_classifierFrom request.directory tree]
  dsimp only
  cases Database.classifierIn tree.readText request.directory with
  | error cause => rfl
  | ok classifier =>
    dsimp only
    rw [Work.on_bind, Work.on_liftM, FileTree.run_write]
    cases tree.write (setup.outputOf request) classifier.source.toUTF8 with
    | error fileError => rfl
    | ok after => rfl

theorem outcomeOn_eq_ok_iff : outcomeOn setup request tree = (.ok classifier, after) ↔
    Database.classifierIn tree.readText request.directory = .ok classifier ∧
      tree.write (setup.outputOf request) classifier.source.toUTF8 = .ok after := by
  rw [outcomeOn_eq]
  cases Database.classifierIn tree.readText request.directory with
  | error cause => simp
  | ok made =>
    rw [Except.ok.injEq]
    constructor
    · intro ended
      dsimp only at ended
      split at ended
      · cases ended
      · rename_i written
        cases ended
        exact ⟨rfl, written⟩
    · rintro ⟨rfl, written⟩
      simp only [written]

/-- A request that cannot be carried out changes nothing. -/
theorem outcomeOn_eq_error_iff : outcomeOn setup request tree = (.error cause, after) ↔
    tree = after ∧ (Database.classifierIn tree.readText request.directory = .error cause ∨
      ∃ classifier fileError,
        Database.classifierIn tree.readText request.directory = .ok classifier ∧
        tree.write (setup.outputOf request) classifier.source.toUTF8 = .error fileError ∧
        .unwritable (setup.outputOf request) fileError = cause) := by
  rw [outcomeOn_eq]
  cases Database.classifierIn tree.readText request.directory with
  | error found => simp [and_comm]
  | ok classifier =>
    simp only [reduceCtorEq, false_or, Except.ok.injEq, exists_and_left, exists_eq_left']
    cases tree.write (setup.outputOf request) classifier.source.toUTF8 with
    | error fileError => simp [and_comm]
    | ok made => simp

/-- A request is carried out, or it changes nothing. -/
theorem outcomeOn_cases (setup : Setup) (request : Request) (tree : FileTree) :
    (∃ classifier after, outcomeOn setup request tree = (.ok classifier, after)) ∨
      ∃ cause, outcomeOn setup request tree = (.error cause, tree) := by
  cases ended : outcomeOn setup request tree with
  | mk outcome after =>
    cases outcome with
    | ok classifier => exact Or.inl ⟨classifier, after, rfl⟩
    | error cause =>
      obtain ⟨rfl, _⟩ := outcomeOn_eq_error_iff.mp ended
      exact Or.inr ⟨cause, rfl⟩

theorem run_eq (asked : setup.invocation arguments = .run request) :
    run setup arguments tree = match outcomeOn setup request tree with
      | (.ok classifier, after) => (.wrote (setup.outputOf request) classifier, after)
      | (.error cause, after) => (.failed cause, after) := by
  rw [run, execute, asked]
  dsimp only
  rw [StateT.run_bind, outcomeOn, Work.on]
  rcases StateT.run (ExceptT.run (perform FileTree.files setup request)) tree with ⟨outcome, after⟩
  cases outcome with
  | ok classifier => rfl
  | error cause => rfl

theorem run_of_outcomeOn_error (asked : setup.invocation arguments = .run request)
    (failed : outcomeOn setup request tree = (.error cause, tree)) :
    run setup arguments tree = (.failed cause, tree) := by
  rw [run_eq asked, failed]

theorem run_of_classifierIn_error (asked : setup.invocation arguments = .run request)
    (refused : Database.classifierIn tree.readText request.directory = .error cause) :
    run setup arguments tree = (.failed cause, tree) :=
  run_of_outcomeOn_error asked (outcomeOn_eq_error_iff.mpr ⟨rfl, Or.inl refused⟩)

theorem run_of_write_error (asked : setup.invocation arguments = .run request)
    (made : Database.classifierIn tree.readText request.directory = .ok classifier)
    (unwritten : tree.write (setup.outputOf request) classifier.source.toUTF8 = .error fileError) :
    run setup arguments tree = (.failed (.unwritable (setup.outputOf request) fileError), tree) :=
  run_of_outcomeOn_error asked
    (outcomeOn_eq_error_iff.mpr ⟨rfl, Or.inr ⟨classifier, fileError, made, unwritten, rfl⟩⟩)

theorem run_eq_wrote_iff (asked : setup.invocation arguments = .run request) :
    run setup arguments tree = (.wrote path classifier, after) ↔
      setup.outputOf request = path ∧ outcomeOn setup request tree = (.ok classifier, after) := by
  rw [run_eq asked]
  rcases outcomeOn setup request tree with ⟨outcome, left⟩
  cases outcome with
  | error cause => simp
  | ok made => simp [and_assoc]

theorem exists_wrote_of_status_eq_zero (asked : setup.invocation arguments = .run request)
    (succeeded : (run setup arguments tree).1.status = 0) :
    ∃ classifier after,
      run setup arguments tree = (.wrote (setup.outputOf request) classifier, after) := by
  rcases outcomeOn_cases setup request tree with ⟨classifier, after, ended⟩ | ⟨cause, failed⟩
  · exact ⟨classifier, after, (run_eq_wrote_iff asked).mpr ⟨rfl, ended⟩⟩
  · rw [run_of_outcomeOn_error asked failed] at succeeded
    exact absurd succeeded Nat.one_ne_zero

theorem status_eq_zero_iff (asked : setup.invocation arguments = .run request) :
    (run setup arguments tree).1.status = 0 ↔
      ∃ classifier after, outcomeOn setup request tree = (.ok classifier, after) := by
  constructor
  · intro succeeded
    obtain ⟨classifier, after, wrote⟩ := exists_wrote_of_status_eq_zero asked succeeded
    obtain ⟨_, ended⟩ := (run_eq_wrote_iff asked).mp wrote
    exact ⟨classifier, after, ended⟩
  · rintro ⟨classifier, after, ended⟩
    rw [(run_eq_wrote_iff asked).mpr ⟨rfl, ended⟩]
    rfl

/-- What a run that wrote a classifier has read and written. -/
structure Emits (setup : Setup) (request : Request) (tree : FileTree) (derived list : String)
    (version : Version) (classifier : Classifier) (after : FileTree) : Prop where
  derived_read : tree.readText (FileTree.join request.directory Database.derivedFile) = .ok derived
  list_read : tree.readText (FileTree.join request.directory Database.listFile) = .ok list
  yields : Yields derived list version classifier
  written : tree.write (setup.outputOf request) classifier.source.toUTF8 = .ok after

theorem outcomeOn_eq_ok_iff_emits : outcomeOn setup request tree = (.ok classifier, after) ↔
    ∃ derived list version, Emits setup request tree derived list version classifier after := by
  rw [outcomeOn_eq_ok_iff, Database.classifierIn_eq_ok_iff]
  constructor
  · rintro ⟨⟨derived, list, version, derivedRead, listRead, yields⟩, written⟩
    exact ⟨derived, list, version, derivedRead, listRead, yields, written⟩
  · rintro ⟨derived, list, version, derivedRead, listRead, yields, written⟩
    exact ⟨⟨derived, list, version, derivedRead, listRead, yields⟩, written⟩

/-- A run that was asked to write and ends with status zero emits the classifier of its texts. -/
theorem exists_emits_of_status_eq_zero (asked : setup.invocation arguments = .run request)
    (succeeded : (run setup arguments tree).1.status = 0) :
    ∃ derived list version classifier after,
      run setup arguments tree = (.wrote (setup.outputOf request) classifier, after) ∧
        Emits setup request tree derived list version classifier after := by
  obtain ⟨classifier, after, wrote⟩ := exists_wrote_of_status_eq_zero asked succeeded
  obtain ⟨_, ended⟩ := (run_eq_wrote_iff asked).mp wrote
  obtain ⟨derived, list, version, emits⟩ := outcomeOn_eq_ok_iff_emits.mp ended
  exact ⟨derived, list, version, classifier, after, wrote, emits⟩

theorem run_of_write (asked : setup.invocation arguments = .run request)
    (made : Database.classifierIn tree.readText request.directory = .ok classifier)
    (written : tree.write (setup.outputOf request) classifier.source.toUTF8 = .ok after) :
    run setup arguments tree = (.wrote (setup.outputOf request) classifier, after) :=
  (run_eq_wrote_iff asked).mpr ⟨rfl, outcomeOn_eq_ok_iff.mpr ⟨made, written⟩⟩

/-- Three letters with both properties. -/
def sampleDerived : String :=
  "# DerivedCoreProperties-13.0.0.txt\n0041..0043 ; ID_Start\n0041..0043 ; ID_Continue\n"

/-- One of the letters is a pattern character. -/
def sampleList : String := "0042 ; Pattern_Syntax\n"

/-- Ask for the classifier of the two files. -/
def sampleArguments : List String := ["UCD", "--output", "out.rs"]

/-- What the arguments amount to. -/
def sampleRequest : Request := ⟨"UCD", some "out.rs"⟩

theorem sample_asked : commandLine.invocation sampleArguments = .run sampleRequest := by
  rfl

/-- A directory with two files of the given contents. -/
def treeWith (derived list : String) : FileTree where
  nodes := [(["UCD"], .directory),
    (["UCD", "DerivedCoreProperties.txt"], .file derived.toUTF8),
    (["UCD", "PropList.txt"], .file list.toUTF8)]
  home := []

/-- The small database in a directory. -/
def sampleTree : FileTree := treeWith sampleDerived sampleList

theorem readText_treeWith (derived list : String) :
    (treeWith derived list).readText (FileTree.join sampleRequest.directory Database.derivedFile) =
        .ok derived ∧
      (treeWith derived list).readText (FileTree.join sampleRequest.directory Database.listFile) =
        .ok list :=
  ⟨FileTree.readText_of_readBytes (by rfl), FileTree.readText_of_readBytes (by rfl)⟩

theorem write_treeWith (derived list : String) (contents : ByteArray) :
    (treeWith derived list).write (commandLine.outputOf sampleRequest) contents =
      .ok ((treeWith derived list).put ["out.rs"] (.file contents)) := by
  have aimed : (treeWith derived list).target "out.rs" = .ok ["out.rs"] := by rfl
  have free : (treeWith derived list).node? ["out.rs"] = none := by rfl
  exact FileTree.write_eq_ok_iff.mpr ⟨["out.rs"], aimed, by simp [free], rfl⟩

theorem exists_run_treeWith (yields : Yields derived list version classifier) :
    ∃ after, run commandLine sampleArguments (treeWith derived list) =
      (.wrote "out.rs" classifier, after) := by
  obtain ⟨derivedRead, listRead⟩ := readText_treeWith derived list
  have made := Database.classifierIn_eq_ok_iff.mpr
    ⟨derived, list, version, derivedRead, listRead, yields⟩
  exact ⟨_, run_of_write sample_asked made (write_treeWith derived list _)⟩

theorem sample_derived_entries : Property.entries sampleDerived.toList =
    .ok [⟨⟨0x41, 0x43⟩, "ID_Start"⟩, ⟨⟨0x41, 0x43⟩, "ID_Continue"⟩] := by
  rw [show sampleDerived.toList = _ from String.toList_ofList]
  rfl

theorem sample_list_entries :
    Property.entries sampleList.toList = .ok [⟨⟨0x42, 0x42⟩, "Pattern_Syntax"⟩] := by
  rw [show sampleList.toList = _ from String.toList_ofList]
  rfl

theorem sample_version : Property.versionOf? Database.derivedStem.toList sampleDerived.toList =
    some ⟨13, 0, 0⟩ := by
  rw [show sampleDerived.toList = _ from String.toList_ofList,
    show Database.derivedStem.toList = _ from String.toList_ofList]
  rfl

theorem exists_sample_yields :
    ∃ classifier, Yields sampleDerived sampleList ⟨13, 0, 0⟩ classifier := by
  refine ⟨_, sample_version, _, _, sample_derived_entries, sample_list_entries,
    Database.classifierOf_eq_ok_iff.mpr ⟨fun code member => ?_, rfl⟩⟩
  simpa [Database.startOf, Database.continuingOf] using member

theorem exists_sample_run : ∃ classifier after,
    run commandLine sampleArguments sampleTree = (.wrote "out.rs" classifier, after) ∧
      Yields sampleDerived sampleList ⟨13, 0, 0⟩ classifier := by
  obtain ⟨classifier, yields⟩ := exists_sample_yields
  obtain ⟨after, wrote⟩ := exists_run_treeWith yields
  exact ⟨classifier, after, wrote, yields⟩

theorem sample_succeeded : (run commandLine sampleArguments sampleTree).1.status = 0 := by
  obtain ⟨classifier, after, wrote, _⟩ := exists_sample_run
  rw [wrote]
  rfl

/-- What is written lets a code point that begins an identifier also continue one, unless it is `_`
and the texts do not let `_` continue one.  So the two questions are in this order for all code
points exactly when the texts let `_` continue an identifier. -/
theorem run_isContinue_of_isStart_iff (asked : setup.invocation arguments = .run request)
    (succeeded : (run setup arguments tree).1.status = 0) :
    ∃ derived list classifier after,
      tree.readText (FileTree.join request.directory Database.derivedFile) = .ok derived ∧
      tree.readText (FileTree.join request.directory Database.listFile) = .ok list ∧
      run setup arguments tree = (.wrote (setup.outputOf request) classifier, after) ∧
      (∀ code, classifier.isStart (.uint32 code) = true →
        (classifier.isContinue (.uint32 code) = true ↔
          code ≠ underscore ∨ Continues derived list underscore)) ∧
      ((∀ code ≤ maxCodePoint, classifier.isStart (.uint32 code) = true →
        classifier.isContinue (.uint32 code) = true) ↔ Continues derived list underscore) := by
  obtain ⟨derived, list, version, classifier, after, wrote, emits⟩ :=
    exists_emits_of_status_eq_zero asked succeeded
  have isContinue_iff : ∀ code, classifier.isStart (.uint32 code) = true →
      (classifier.isContinue (.uint32 code) = true ↔
        code ≠ underscore ∨ Continues derived list underscore) :=
    fun _ starts => emits.yields.isContinue_iff_of_isStart starts
  refine ⟨derived, list, classifier, after, emits.derived_read, emits.list_read, wrote,
    isContinue_iff, ?_⟩
  constructor
  · intro monotone
    have starts := emits.yields.isStart_underscore
    have continues := monotone underscore (by decide) starts
    exact ((isContinue_iff underscore starts).mp continues).resolve_left (fun ne => ne rfl)
  · intro continues code _ starts
    exact (isContinue_iff code starts).mpr (Or.inr continues)

theorem run_isContinue_of_isStart_iff_sample :
    commandLine.invocation sampleArguments = .run sampleRequest ∧
      (run commandLine sampleArguments sampleTree).1.status = 0 ∧
      ∃ derived list classifier after,
        run commandLine sampleArguments sampleTree = (.wrote "out.rs" classifier, after) ∧
        ((∀ code ≤ maxCodePoint, classifier.isStart (.uint32 code) = true →
          classifier.isContinue (.uint32 code) = true) ↔ Continues derived list underscore) := by
  obtain ⟨derived, list, classifier, after, _, _, wrote, _, monotone_iff⟩ :=
    run_isContinue_of_isStart_iff sample_asked sample_succeeded
  exact ⟨sample_asked, sample_succeeded, derived, list, classifier, after, wrote, monotone_iff⟩

/-- The small database is accepted though it does not let `_` continue an identifier. -/
theorem underscore_begins_without_continuing : ∃ classifier after,
    run commandLine sampleArguments sampleTree = (.wrote "out.rs" classifier, after) ∧
      classifier.isStart (.uint32 0x5F) = true ∧ classifier.isContinue (.uint32 0x5F) = false := by
  obtain ⟨classifier, after, wrote, yields⟩ := exists_sample_run
  have notAssigned : ¬ Property.Assigns sampleDerived "ID_Continue" 0x5F := by
    have noMember : (0x5F : UInt32) ∉ Property.valuesOf ["ID_Continue"]
        [⟨⟨0x41, 0x43⟩, "ID_Start"⟩, ⟨⟨0x41, 0x43⟩, "ID_Continue"⟩] := by
      simp
    simpa [Property.mem_valuesOf_iff_assigns sample_derived_entries] using noMember
  have starts := yields.isStart_underscore
  refine ⟨classifier, after, wrote, starts, ?_⟩
  rw [Bool.eq_false_iff, ne_eq]
  intro continues
  rcases (yields.isContinue_iff_of_isStart starts).mp continues with different | continues
  · exact different rfl
  · exact notAssigned continues.1

end Generator
end UnicodeIdentifier
