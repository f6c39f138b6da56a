import UnicodeIdentifier.Database
import UnicodeIdentifier.Proofs.Classifier
import UnicodeIdentifier.Proofs.FileTree.Work
import UnicodeIdentifier.Proofs.Outcome
import UnicodeIdentifier.Proofs.Property.File

/-!
# The classifier of two texts

A classifier is made exactly when the first text names a version, all lines of both texts are
acceptable, and what begins an identifier also continues one.  It is then the classifier of the two
sets that the data lines describe.
-/

namespace UnicodeIdentifier
namespace Database

variable {derived list directory file contents text : String} {code : UInt32} {version : Version}
  {found derivedEntries listEntries : List Property.Entry} {start continuing : CodeSet}
  {classifier : Classifier} {read : String → Except FileError String} {cause : Failure}

/-- The property list makes the value a pattern character. -/
def IsPattern (list : String) (code : UInt32) : Prop :=
  Property.Assigns list "Pattern_Syntax" code ∨ Property.Assigns list "Pattern_White_Space" code

/-- The texts let the value begin an identifier. -/
def Begins (derived list : String) (code : UInt32) : Prop :=
  Property.Assigns derived "ID_Start" code ∧ ¬ IsPattern list code

/-- The texts let the value continue an identifier. -/
def Continues (derived list : String) (code : UInt32) : Prop :=
  Property.Assigns derived "ID_Continue" code ∧ ¬ IsPattern list code

theorem mem_patternOf (listRead : Property.entries list.toList = .ok listEntries) :
    code ∈ patternOf listEntries ↔ IsPattern list code := by
  rw [patternOf, Property.mem_valuesOf_iff_assigns listRead, IsPattern]
  simp

theorem mem_startOf (derivedRead : Property.entries derived.toList = .ok derivedEntries)
    (listRead : Property.entries list.toList = .ok listEntries) :
    code ∈ startOf derivedEntries listEntries ↔ Begins derived list code := by
  rw [startOf, CodeSet.mem_sdiff, Property.mem_valuesOf_iff_assigns derivedRead,
    mem_patternOf listRead, Begins]
  simp

theorem mem_continuingOf (derivedRead : Property.entries derived.toList = .ok derivedEntries)
    (listRead : Property.entries list.toList = .ok listEntries) :
    code ∈ continuingOf derivedEntries listEntries ↔ Continues derived list code := by
  rw [continuingOf, CodeSet.mem_sdiff, Property.mem_valuesOf_iff_assigns derivedRead,
    mem_patternOf listRead, Continues]
  simp

@[simp]
theorem entriesOf_eq_ok_iff :
    entriesOf file contents = .ok found ↔ Property.entries contents.toList = .ok found :=
  mapError_eq_ok_iff

theorem ofDerived_eq_ok_iff : ofDerived contents = .ok (version, found) ↔
    Property.versionOf? derivedStem.toList contents.toList = some version ∧
      Property.entries contents.toList = .ok found := by
  rw [ofDerived]
  cases Property.versionOf? derivedStem.toList contents.toList with
  | none => simp
  | some named =>
    rw [map_eq_ok_iff, Option.some.injEq]
    constructor
    · rintro ⟨_, wasRead, same⟩
      cases same
      exact ⟨rfl, entriesOf_eq_ok_iff.mp wasRead⟩
    · rintro ⟨rfl, wasRead⟩
      exact ⟨found, entriesOf_eq_ok_iff.mpr wasRead, rfl⟩

theorem classifierOf_eq_ok_iff : classifierOf version start continuing = .ok classifier ↔
    (∀ code, code ∈ start → code ∈ continuing) ∧ .ofSets version start continuing = classifier := by
  have noMember : (start \ continuing).min? = none ↔ ∀ code, code ∈ start → code ∈ continuing := by
    simp [CodeSet.min?_eq_none_iff]
  rw [classifierOf, ← noMember]
  cases (start \ continuing).min? with
  | none => simp
  | some code => simp

/-- The two texts give the classifier. -/
structure Yields (derived list : String) (version : Version) (classifier : Classifier) : Prop where
  named : Property.versionOf? derivedStem.toList derived.toList = some version
  made : ∃ derivedEntries listEntries, Property.entries derived.toList = .ok derivedEntries ∧
    Property.entries list.toList = .ok listEntries ∧
    classifierOf version (startOf derivedEntries listEntries)
      (continuingOf derivedEntries listEntries) = .ok classifier

/-- The contents of a file in a directory, given what comes of reading each file. -/
def contentsOf (read : String → Except FileError String) (directory file : String) :
    Except Failure String :=
  Id.run (contentsFrom (fun path => pure (read path)) directory file).run

/-- The classifier of the database in a directory, given what comes of reading each file. -/
def classifierIn (read : String → Except FileError String) (directory : String) :
    Except Failure Classifier :=
  Id.run (classifierFrom (fun path => pure (read path)) directory).run

theorem contentsOf_eq : contentsOf read directory file =
    (read (FileTree.join directory file)).mapError
      (Failure.unreadable (FileTree.join directory file)) := rfl

@[simp]
theorem contentsOf_eq_ok_iff : contentsOf read directory file = .ok text ↔
    read (FileTree.join directory file) = .ok text := by
  rw [contentsOf_eq, mapError_eq_ok_iff]

theorem classifierIn_eq : classifierIn read directory =
    (contentsOf read directory derivedFile >>= fun derived => ofDerived derived >>= fun parsed =>
      contentsOf read directory listFile >>= fun list => ofList list >>= fun entries =>
        classifierOf parsed.1 (startOf parsed.2 entries) (continuingOf parsed.2 entries)) := by
  simp only [classifierIn, classifierFrom, contentsOf, idRun_bind, idRun_liftM]

theorem looks_contentsFrom (directory file : String) :
    Work.Looks (contentsFrom FileTree.files.read directory file)
      fun tree => contentsOf tree.readText directory file := fun _ => rfl

/-- Up to the classifier a tree is only looked at. -/
theorem looks_classifierFrom (directory : String) :
    Work.Looks (classifierFrom FileTree.files.read directory)
      fun tree => classifierIn tree.readText directory := by
  simp only [classifierIn_eq]
  refine (looks_contentsFrom directory derivedFile).bind fun derived => ?_
  refine (Work.looks_liftM (ofDerived derived)).bind fun parsed => ?_
  refine (looks_contentsFrom directory listFile).bind fun list => ?_
  refine (Work.looks_liftM (ofList list)).bind fun entries => ?_
  exact Work.looks_liftM (classifierOf _ _ _)

/-- A classifier is made from a directory exactly when its two files can be read and their texts
give it. -/
theorem classifierIn_eq_ok_iff : classifierIn read directory = .ok classifier ↔
    ∃ derived list version, read (FileTree.join directory derivedFile) = .ok derived ∧
      read (FileTree.join directory listFile) = .ok list ∧
      Yields derived list version classifier := by
  simp only [classifierIn_eq, bind_eq_ok_iff, contentsOf_eq_ok_iff]
  constructor
  · rintro ⟨derived, derivedThere, ⟨version, derivedEntries⟩, derivedRead, list, listThere,
      listEntries, listRead, made⟩
    obtain ⟨named, derivedRead⟩ := ofDerived_eq_ok_iff.mp derivedRead
    exact ⟨derived, list, version, derivedThere, listThere, named, derivedEntries, listEntries,
      derivedRead, entriesOf_eq_ok_iff.mp listRead, made⟩
  · rintro ⟨derived, list, version, derivedThere, listThere, named, derivedEntries, listEntries,
      derivedRead, listRead, made⟩
    exact ⟨derived, derivedThere, ⟨version, derivedEntries⟩,
      ofDerived_eq_ok_iff.mpr ⟨named, derivedRead⟩, list, listThere, listEntries,
      entriesOf_eq_ok_iff.mpr listRead, made⟩

theorem contentsOf_eq_error_iff : contentsOf read directory file = .error cause ↔
    ∃ fileError, read (FileTree.join directory file) = .error fileError ∧
      .unreadable (FileTree.join directory file) fileError = cause := by
  rw [contentsOf_eq, mapError_eq_error_iff]

theorem entriesOf_eq_error_iff : entriesOf file contents = .error cause ↔
    ∃ bad, Property.entries contents.toList = .error bad ∧ .badLine file bad = cause :=
  mapError_eq_error_iff

theorem ofDerived_eq_error_iff : ofDerived contents = .error cause ↔
    (Property.versionOf? derivedStem.toList contents.toList = none ∧
      .noVersion derivedFile = cause) ∨
    (∃ version, Property.versionOf? derivedStem.toList contents.toList = some version) ∧
      entriesOf derivedFile contents = .error cause := by
  rw [ofDerived]
  cases Property.versionOf? derivedStem.toList contents.toList with
  | none => simp
  | some named => simp

theorem classifierOf_eq_error_iff : classifierOf version start continuing = .error cause ↔
    ∃ code, (code ∈ start ∧ code ∉ continuing) ∧
      (∀ other, other ∈ start → other ∉ continuing → code ≤ other) ∧
      .notContinuing code = cause := by
  have isLeast : ∀ code, (start \ continuing).min? = some code ↔
      (code ∈ start ∧ code ∉ continuing) ∧
        ∀ other, other ∈ start → other ∉ continuing → code ≤ other := by
    simp [CodeSet.min?_eq_some_iff]
  simp only [classifierOf, ← and_assoc, ← isLeast]
  cases (start \ continuing).min? with
  | none => simp
  | some code => simp

/-- No classifier is made from a directory exactly when one of the five stages fails after those
before it have succeeded. -/
theorem classifierIn_eq_error_iff : classifierIn read directory = .error cause ↔
    contentsOf read directory derivedFile = .error cause ∨
    ∃ derived, read (FileTree.join directory derivedFile) = .ok derived ∧
      (ofDerived derived = .error cause ∨
      ∃ version derivedEntries, ofDerived derived = .ok (version, derivedEntries) ∧
        (contentsOf read directory listFile = .error cause ∨
        ∃ list, read (FileTree.join directory listFile) = .ok list ∧
          (ofList list = .error cause ∨
          ∃ listEntries, ofList list = .ok listEntries ∧
            classifierOf version (startOf derivedEntries listEntries)
              (continuingOf derivedEntries listEntries) = .error cause))) := by
  simp only [classifierIn_eq, bind_eq_error_iff, contentsOf_eq_ok_iff, Prod.exists]

/-- The classifier that two texts give is the one of the sets that they describe. -/
theorem Yields.exists_ofSets (yields : Yields derived list version classifier) :
    ∃ start continuing, (∀ code, code ∈ start ↔ Begins derived list code) ∧
      (∀ code, code ∈ continuing ↔ Continues derived list code) ∧
      (∀ code, code ∈ start → code ∈ continuing) ∧
      .ofSets version start continuing = classifier := by
  obtain ⟨_, derivedEntries, listEntries, derivedRead, listRead, made⟩ := yields
  obtain ⟨subset, isOfSets⟩ := classifierOf_eq_ok_iff.mp made
  exact ⟨startOf derivedEntries listEntries, continuingOf derivedEntries listEntries,
    fun _ => mem_startOf derivedRead listRead, fun _ => mem_continuingOf derivedRead listRead,
    subset, isOfSets⟩

theorem Yields.eq_ofSets (yields : Yields derived list version classifier)
    (mem_start : ∀ code, code ∈ start ↔ Begins derived list code)
    (mem_continuing : ∀ code, code ∈ continuing ↔ Continues derived list code) :
    classifier = .ofSets version start continuing := by
  obtain ⟨others, otherContinuing, mem_others, mem_otherContinuing, _, rfl⟩ := yields.exists_ofSets
  have start_eq : others = start :=
    CodeSet.eq_of_mem_iff fun code => (mem_others code).trans (mem_start code).symm
  have continuing_eq : otherContinuing = continuing :=
    CodeSet.eq_of_mem_iff fun code => (mem_otherContinuing code).trans (mem_continuing code).symm
  rw [start_eq, continuing_eq]

/-- The classifier answers by the sets that the texts describe. -/
theorem Yields.decides (yields : Yields derived list version classifier) :
    classifier.Decides (Begins derived list) (Continues derived list) := by
  obtain ⟨start, continuing, mem_start, mem_continuing, _, rfl⟩ := yields.exists_ofSets
  exact Classifier.decides_ofSets mem_start mem_continuing

theorem Yields.coherent (yields : Yields derived list version classifier) : classifier.Coherent := by
  obtain ⟨start, continuing, _, _, _, rfl⟩ := yields.exists_ofSets
  exact Classifier.coherent_ofSets version start continuing

theorem Yields.covers_start_iff (yields : Yields derived list version classifier) :
    Covers classifier.start.intervals code ↔ Begins derived list code := by
  obtain ⟨start, continuing, mem_start, _, _, rfl⟩ := yields.exists_ofSets
  rw [Classifier.covers_ofSets_start, mem_start]

theorem Yields.covers_continuing_iff (yields : Yields derived list version classifier) :
    Covers classifier.continuing.intervals code ↔ Continues derived list code := by
  obtain ⟨start, continuing, _, mem_continuing, _, rfl⟩ := yields.exists_ofSets
  rw [Classifier.covers_ofSets_continuing, mem_continuing]

theorem Yields.continues_of_begins (yields : Yields derived list version classifier)
    (begins : Begins derived list code) : Continues derived list code := by
  obtain ⟨start, continuing, mem_start, mem_continuing, subset, _⟩ := yields.exists_ofSets
  exact (mem_continuing code).mp (subset code ((mem_start code).mpr begins))

/-- A code point that begins an identifier also continues one, unless it is `_` and the texts do not
let `_` continue one. -/
theorem Yields.isContinue_iff_of_isStart (yields : Yields derived list version classifier)
    (starts : classifier.isStart (.uint32 code) = true) :
    classifier.isContinue (.uint32 code) = true ↔
      code ≠ underscore ∨ Continues derived list underscore := by
  obtain ⟨start, continuing, _, mem_continuing, subset, rfl⟩ := yields.exists_ofSets
  obtain ⟨small, startsAt⟩ := Classifier.isStart_uint32.mp starts
  rw [Classifier.isContinue_uint32, and_iff_right small, ← mem_continuing]
  exact Classifier.continuesAt_ofSets_iff_of_startsAt subset startsAt

theorem Yields.isStart_underscore (yields : Yields derived list version classifier) :
    classifier.isStart (.uint32 underscore) = true :=
  (yields.decides.isStart_iff underscore (by decide)).mpr (Or.inr (Or.inr rfl))

end Database
end UnicodeIdentifier
