import UnicodeIdentifier.Proofs.Generator

/-!
# The first check that fails

A run looks for seven things, one after another, and stops at the first that it does not find.  Its
words are about that one alone, whatever else is wrong further on.  Of the lines of a file it names the
first that is not acceptable, by its number among all lines.
-/

namespace UnicodeIdentifier
namespace Generator

open Database (Begins Continues)

/-- What a run looks for. -/
inductive Check where
  /-- A file of the database can be read as text. -/
  | readable (file : String)
  /-- The first line of the derived properties names a version. -/
  | named
  /-- All lines of a file of the database are acceptable. -/
  | acceptable (file : String)
  /-- What may begin an identifier may also continue one. -/
  | included
  /-- The output can be written. -/
  | writable

/-- What a run looks for in the derived properties, in the order in which it does so. -/
def derivedChecks : List Check :=
  [.readable Database.derivedFile, .named, .acceptable Database.derivedFile]

/-- What a run looks for in the list of properties, in the order in which it does so. -/
def listChecks : List Check := [.readable Database.listFile, .acceptable Database.listFile]

/-- What a run looks for in the database, in the order in which it does so. -/
def databaseChecks : List Check := derivedChecks ++ listChecks ++ [.included]

/-- What a run looks for, in the order in which it does so. -/
def checks : List Check := databaseChecks ++ [.writable]

/-- A file of the database has the text. -/
def HasText (request : Request) (tree : FileTree) (file text : String) : Prop :=
  tree.readText (FileTree.join request.directory file) = .ok text

/-- What a run looks for is there. -/
def Passes (setup : Setup) (request : Request) (tree : FileTree) : Check → Prop
  | .readable file => ∃ text, HasText request tree file text
  | .named => ∃ text version, HasText request tree Database.derivedFile text ∧
      Property.versionOf? Database.derivedStem.toList text.toList = some version
  | .acceptable file => ∃ text, HasText request tree file text ∧
      ∀ line ∈ Text.lines text.toList, Property.Acceptable line
  | .included => ∃ derived list, HasText request tree Database.derivedFile derived ∧
      HasText request tree Database.listFile list ∧
      ∀ code, Begins derived list code → Continues derived list code
  | .writable => ∀ contents, ∃ after, tree.write (setup.outputOf request) contents = .ok after

/-- The words for what a run does not find. -/
def Blames (setup : Setup) (request : Request) (tree : FileTree) : Check → String → Prop
  | .readable file, message => ∃ cause,
      tree.readText (FileTree.join request.directory file) = .error cause ∧
      message = FileTree.join request.directory file ++ ": " ++ cause.message ++ "\n" ++
        Failure.downloadHint ++ "\n"
  | .named, message => message = Database.derivedFile ++ ": missing version header\n"
  | .acceptable file, message => ∃ text number line, HasText request tree file text ∧
      IsLeast (Property.badNumbers (Text.lines text.toList)) number ∧
      (Text.lines text.toList)[number]? = some line ∧
      message = file ++ " line " ++ Numeral.decimal number ++ " is unexpected:\n" ++
        String.ofList line ++ "\n"
  | .included, message => ∃ derived list code, HasText request tree Database.derivedFile derived ∧
      HasText request tree Database.listFile list ∧
      (Begins derived list code ∧ ¬ Continues derived list code) ∧
      (∀ other, Begins derived list other → ¬ Continues derived list other → code ≤ other) ∧
      message = "U+" ++ Numeral.hex4 code ++
        " is ID_Start but not ID_Continue; refusing to emit tables\n"
  | .writable, message => ∃ cause,
      (∀ contents, tree.write (setup.outputOf request) contents = .error cause) ∧
      message = setup.outputOf request ++ ": " ++ cause.message ++ "\n"

/-- What a run looks for is not there, and the message says so. -/
structure Refuses (setup : Setup) (request : Request) (tree : FileTree) (check : Check)
    (message : String) : Prop where
  not_passes : ¬ Passes setup request tree check
  blames : Blames setup request tree check message

/-- The check is the first that does not pass, and the message says so. -/
def StopsAt (setup : Setup) (request : Request) (tree : FileTree) (check : Check)
    (message : String) : Prop :=
  ∃ passed skipped, checks = passed ++ check :: skipped ∧
    (∀ earlier ∈ passed, Passes setup request tree earlier) ∧ Refuses setup request tree check message

variable {setup : Setup} {arguments : List String} {request : Request} {tree after : FileTree}
  {classifier : Classifier} {file text derived list : String} {version : Version} {cause : Failure}
  {fileError : FileError} {derivedEntries listEntries : List Property.Entry}
  {check otherCheck : Check} {message otherMessage : String}

theorem HasText.unique {otherText : String} (isRead : HasText request tree file text)
    (otherRead : HasText request tree file otherText) : text = otherText :=
  Except.ok.inj (isRead.symm.trans otherRead)

theorem StopsAt.mem (stopsAt : StopsAt setup request tree check message) : check ∈ checks := by
  obtain ⟨passed, skipped, isSplit, _⟩ := stopsAt
  rw [isSplit]
  exact List.mem_append_right passed List.mem_cons_self

theorem StopsAt.not_passes (stopsAt : StopsAt setup request tree check message) :
    ¬ Passes setup request tree check := by
  obtain ⟨_, _, _, _, refuses⟩ := stopsAt
  exact refuses.not_passes

theorem refuses_readable
    (failed : Database.contentsOf tree.readText request.directory file = .error cause) :
    Refuses setup request tree (.readable file) cause.message := by
  obtain ⟨fileError, unread, rfl⟩ := Database.contentsOf_eq_error_iff.mp failed
  refine ⟨?_, fileError, unread, rfl⟩
  rintro ⟨text, isRead⟩
  rw [HasText, unread] at isRead
  cases isRead

theorem refuses_named (isRead : HasText request tree Database.derivedFile text)
    (unnamed : Property.versionOf? Database.derivedStem.toList text.toList = none) :
    Refuses setup request tree .named (Failure.noVersion Database.derivedFile).message := by
  refine ⟨?_, rfl⟩
  rintro ⟨other, version, otherRead, named⟩
  obtain rfl := isRead.unique otherRead
  rw [unnamed] at named
  cases named

theorem refuses_acceptable (isRead : HasText request tree file text)
    (failed : Database.entriesOf file text = .error cause) :
    Refuses setup request tree (.acceptable file) cause.message := by
  obtain ⟨bad, stopped, rfl⟩ := Database.entriesOf_eq_error_iff.mp failed
  have first := Property.isFirstBad_of_entries stopped
  refine ⟨?_, text, bad.number, bad.line, isRead, first.isLeast, first.at_number, rfl⟩
  rintro ⟨other, otherRead, acceptable⟩
  obtain rfl := isRead.unique otherRead
  rw [Property.entries_eq_ok_iff.mpr ⟨acceptable, rfl⟩] at stopped
  cases stopped

theorem refuses_included (derivedRead : HasText request tree Database.derivedFile derived)
    (listRead : HasText request tree Database.listFile list)
    (isDerived : Property.entries derived.toList = .ok derivedEntries)
    (isList : Property.entries list.toList = .ok listEntries)
    (failed : Database.classifierOf version (Database.startOf derivedEntries listEntries)
      (Database.continuingOf derivedEntries listEntries) = .error cause) :
    Refuses setup request tree .included cause.message := by
  simp only [Database.classifierOf_eq_error_iff, Database.mem_startOf isDerived isList,
    Database.mem_continuingOf isDerived isList] at failed
  obtain ⟨code, member, least, rfl⟩ := failed
  refine ⟨?_, derived, list, code, derivedRead, listRead, member, least, rfl⟩
  rintro ⟨otherDerived, otherList, otherDerivedRead, otherListRead, included⟩
  obtain rfl := derivedRead.unique otherDerivedRead
  obtain rfl := listRead.unique otherListRead
  exact member.2 (included code member.1)

theorem refuses_writable {contents : ByteArray}
    (failed : tree.write (setup.outputOf request) contents = .error fileError) :
    Refuses setup request tree .writable
      (Failure.unwritable (setup.outputOf request) fileError).message := by
  have always : ∀ others, tree.write (setup.outputOf request) others = .error fileError := fun _ =>
    FileTree.write_eq_error_iff.mpr (FileTree.write_eq_error_iff.mp failed)
  refine ⟨fun passes => ?_, fileError, always, rfl⟩
  obtain ⟨after, written⟩ := passes contents
  rw [failed] at written
  cases written

theorem passes_of_derived (isRead : HasText request tree Database.derivedFile derived)
    (parsed : Database.ofDerived derived = .ok (version, derivedEntries)) :
    ∀ check ∈ derivedChecks, Passes setup request tree check := by
  obtain ⟨named, isDerived⟩ := Database.ofDerived_eq_ok_iff.mp parsed
  obtain ⟨acceptable, _⟩ := Property.entries_eq_ok_iff.mp isDerived
  rw [derivedChecks, List.forall_mem_cons, List.forall_mem_cons, List.forall_mem_singleton]
  exact ⟨⟨derived, isRead⟩, ⟨derived, version, isRead, named⟩, ⟨derived, isRead, acceptable⟩⟩

theorem passes_of_list (isRead : HasText request tree Database.listFile list)
    (parsed : Database.ofList list = .ok listEntries) :
    ∀ check ∈ listChecks, Passes setup request tree check := by
  have isList := Database.entriesOf_eq_ok_iff.mp parsed
  obtain ⟨acceptable, _⟩ := Property.entries_eq_ok_iff.mp isList
  rw [listChecks, List.forall_mem_cons, List.forall_mem_singleton]
  exact ⟨⟨list, isRead⟩, ⟨list, isRead, acceptable⟩⟩

/-- If a classifier is made, the database has all that is looked for in it. -/
theorem passes_of_classifierIn
    (made : Database.classifierIn tree.readText request.directory = .ok classifier) :
    ∀ check ∈ databaseChecks, Passes setup request tree check := by
  obtain ⟨derived, list, version, derivedRead, listRead, yields⟩ :=
    Database.classifierIn_eq_ok_iff.mp made
  obtain ⟨derivedEntries, listEntries, isDerived, isList, _⟩ := yields.made
  have derivedPasses : ∀ check ∈ derivedChecks, Passes setup request tree check :=
    passes_of_derived derivedRead (Database.ofDerived_eq_ok_iff.mpr ⟨yields.named, isDerived⟩)
  have listPasses : ∀ check ∈ listChecks, Passes setup request tree check :=
    passes_of_list listRead (Database.entriesOf_eq_ok_iff.mpr isList)
  have included : Passes setup request tree .included :=
    ⟨derived, list, derivedRead, listRead, fun _ => yields.continues_of_begins⟩
  rw [databaseChecks, List.forall_mem_append, List.forall_mem_append, List.forall_mem_singleton]
  exact ⟨⟨derivedPasses, listPasses⟩, included⟩

/-- If no classifier is made, the cause is the first thing that the database does not have. -/
theorem exists_stopsAt_of_classifierIn
    (refused : Database.classifierIn tree.readText request.directory = .error cause) :
    ∃ check, StopsAt setup request tree check cause.message := by
  rcases Database.classifierIn_eq_error_iff.mp refused with
    unread | ⟨derived, derivedRead, stopped | ⟨version, derivedEntries, parsed, stopped⟩⟩
  · exact ⟨_, [], _, rfl, List.forall_mem_nil _, refuses_readable unread⟩
  · rcases Database.ofDerived_eq_error_iff.mp stopped with ⟨unnamed, rfl⟩ | ⟨⟨version, named⟩, bad⟩
    · exact ⟨_, [.readable Database.derivedFile], _, rfl,
        List.forall_mem_singleton.mpr ⟨derived, derivedRead⟩, refuses_named derivedRead unnamed⟩
    · refine ⟨_, [.readable Database.derivedFile, .named], _, rfl, ?_,
        refuses_acceptable derivedRead bad⟩
      rw [List.forall_mem_cons, List.forall_mem_singleton]
      exact ⟨⟨derived, derivedRead⟩, ⟨derived, version, derivedRead, named⟩⟩
  · have derivedPasses : ∀ check ∈ derivedChecks, Passes setup request tree check :=
      passes_of_derived derivedRead parsed
    rcases stopped with unread | ⟨list, listRead, bad | ⟨listEntries, listParsed, refused⟩⟩
    · exact ⟨_, derivedChecks, _, rfl, derivedPasses, refuses_readable unread⟩
    · refine ⟨_, derivedChecks ++ [.readable Database.listFile], _, rfl, ?_,
        refuses_acceptable listRead bad⟩
      rw [List.forall_mem_append, List.forall_mem_singleton]
      exact ⟨derivedPasses, ⟨list, listRead⟩⟩
    · obtain ⟨_, isDerived⟩ := Database.ofDerived_eq_ok_iff.mp parsed
      have isList := Database.entriesOf_eq_ok_iff.mp listParsed
      refine ⟨_, derivedChecks ++ listChecks, _, rfl, ?_,
        refuses_included derivedRead listRead isDerived isList refused⟩
      rw [List.forall_mem_append]
      exact ⟨derivedPasses, passes_of_list listRead listParsed⟩

/-- If a request can be carried out, all that is looked for is there. -/
theorem passes_of_outcomeOn (ended : outcomeOn setup request tree = (.ok classifier, after)) :
    ∀ check ∈ checks, Passes setup request tree check := by
  obtain ⟨made, written⟩ := outcomeOn_eq_ok_iff.mp ended
  obtain ⟨place, aimed, noDirectory, _⟩ := FileTree.write_eq_ok_iff.mp written
  have writable : Passes setup request tree .writable := fun contents =>
    ⟨_, FileTree.write_eq_ok_iff.mpr ⟨place, aimed, noDirectory, rfl⟩⟩
  rw [checks, List.forall_mem_append, List.forall_mem_singleton]
  exact ⟨passes_of_classifierIn made, writable⟩

/-- A request fails only at the first check that does not pass. -/
theorem exists_stopsAt_of_outcomeOn (failed : outcomeOn setup request tree = (.error cause, after)) :
    ∃ check, StopsAt setup request tree check cause.message := by
  obtain ⟨_, refused | ⟨classifier, fileError, made, unwritten, rfl⟩⟩ :=
    outcomeOn_eq_error_iff.mp failed
  · exact exists_stopsAt_of_classifierIn refused
  · exact ⟨_, databaseChecks, [], rfl, passes_of_classifierIn made, refuses_writable unwritten⟩

theorem exists_error_of_not_passes (member : check ∈ checks)
    (notPasses : ¬ Passes setup request tree check) :
    ∃ cause, outcomeOn setup request tree = (.error cause, tree) := by
  rcases outcomeOn_cases setup request tree with ⟨classifier, after, ended⟩ | failed
  · exact absurd (passes_of_outcomeOn ended check member) notPasses
  · exact failed

theorem exists_outcomeOn_iff :
    (∃ classifier after, outcomeOn setup request tree = (.ok classifier, after)) ↔
      ∀ check ∈ checks, Passes setup request tree check := by
  constructor
  · rintro ⟨classifier, after, ended⟩
    exact passes_of_outcomeOn ended
  · intro allPass
    rcases outcomeOn_cases setup request tree with ended | ⟨cause, failed⟩
    · exact ended
    · obtain ⟨check, stopsAt⟩ := exists_stopsAt_of_outcomeOn failed
      exact absurd (allPass check stopsAt.mem) stopsAt.not_passes

theorem Blames.unique (blames : Blames setup request tree check message)
    (otherBlames : Blames setup request tree check otherMessage) : message = otherMessage := by
  cases check with
  | readable file =>
    obtain ⟨_, unread, rfl⟩ := blames
    obtain ⟨_, otherUnread, rfl⟩ := otherBlames
    rw [Except.error.inj (unread.symm.trans otherUnread)]
  | named => exact blames.trans otherBlames.symm
  | acceptable file =>
    obtain ⟨_, _, _, isRead, least, isLine, rfl⟩ := blames
    obtain ⟨_, _, _, otherRead, otherLeast, otherLine, rfl⟩ := otherBlames
    obtain rfl := isRead.unique otherRead
    obtain rfl := Nat.le_antisymm (least.2 otherLeast.1) (otherLeast.2 least.1)
    rw [Option.some.inj (isLine.symm.trans otherLine)]
  | included =>
    obtain ⟨_, _, code, derivedRead, listRead, member, least, rfl⟩ := blames
    obtain ⟨_, _, otherCode, otherDerived, otherList, otherMember, otherLeast, rfl⟩ := otherBlames
    obtain rfl := derivedRead.unique otherDerived
    obtain rfl := listRead.unique otherList
    have same : code = otherCode := UInt32.le_antisymm
      (least otherCode otherMember.1 otherMember.2) (otherLeast code member.1 member.2)
    rw [same]
  | writable =>
    obtain ⟨_, unwritten, rfl⟩ := blames
    obtain ⟨_, otherUnwritten, rfl⟩ := otherBlames
    rw [Except.error.inj ((unwritten .empty).symm.trans (otherUnwritten .empty))]

theorem length_le_of_not_passes {passed skipped otherPassed otherSkipped : List Check}
    (isSplit : checks = passed ++ check :: skipped)
    (notPasses : ¬ Passes setup request tree check)
    (otherSplit : checks = otherPassed ++ otherCheck :: otherSkipped)
    (otherPasses : ∀ earlier ∈ otherPassed, Passes setup request tree earlier) :
    otherPassed.length ≤ passed.length := by
  refine Nat.le_of_not_lt fun longer => notPasses (otherPasses check ?_)
  have isCheck : checks[passed.length]? = some check := by
    simp [isSplit]
  rw [otherSplit, List.getElem?_append_left longer] at isCheck
  exact List.mem_of_getElem? isCheck

theorem StopsAt.unique (stopsAt : StopsAt setup request tree check message)
    (otherStopsAt : StopsAt setup request tree otherCheck otherMessage) : message = otherMessage := by
  obtain ⟨passed, skipped, isSplit, passes, refuses⟩ := stopsAt
  obtain ⟨otherPassed, otherSkipped, otherSplit, otherPasses, otherRefuses⟩ := otherStopsAt
  have sameLength : passed.length = otherPassed.length := Nat.le_antisymm
    (length_le_of_not_passes otherSplit otherRefuses.not_passes isSplit passes)
    (length_le_of_not_passes isSplit refuses.not_passes otherSplit otherPasses)
  obtain ⟨_, sameRest⟩ := List.append_inj (isSplit.symm.trans otherSplit) sameLength
  obtain ⟨rfl, _⟩ := List.cons_eq_cons.mp sameRest
  exact refuses.blames.unique otherRefuses.blames

/-- A run ends with status zero exactly when every check passes.  Otherwise it ends with status one
and with the words for the first check that does not, whatever stands further on.  A line is acceptable
when it is a comment, is blank or is a data line. -/
theorem run_reports_first_check (asked : setup.invocation arguments = .run request) :
    ((run setup arguments tree).1.status = 0 ↔ ∀ check ∈ checks, Passes setup request tree check) ∧
      ((∃ check ∈ checks, ¬ Passes setup request tree check) →
        ∃ check message, StopsAt setup request tree check message) ∧
      (∀ check message, StopsAt setup request tree check message →
        (run setup arguments tree).1.status = 1 ∧ (run setup arguments tree).1.message? = some message) ∧
      ∀ line, Property.Acceptable line ↔ line.head? = some '#' ∨
        (∀ char ∈ line, Text.isBlank char = true) ∨
        ∃ entry, Property.Entry.read? line = some entry := by
  have status_iff : (run setup arguments tree).1.status = 0 ↔
      ∀ check ∈ checks, Passes setup request tree check :=
    (status_eq_zero_iff asked).trans exists_outcomeOn_iff
  refine ⟨status_iff, ?_, ?_, fun line => Property.acceptable_iff⟩
  · rintro ⟨check, member, notPasses⟩
    obtain ⟨cause, failed⟩ := exists_error_of_not_passes member notPasses
    obtain ⟨first, stopsAt⟩ := exists_stopsAt_of_outcomeOn failed
    exact ⟨first, cause.message, stopsAt⟩
  · intro check message stopsAt
    obtain ⟨cause, failed⟩ := exists_error_of_not_passes stopsAt.mem stopsAt.not_passes
    obtain ⟨first, firstStopsAt⟩ := exists_stopsAt_of_outcomeOn failed
    rw [run_of_outcomeOn_error asked failed, stopsAt.unique firstStopsAt]
    exact ⟨rfl, rfl⟩

/-- Two of the lines are not acceptable, and comments, blank lines and data lines come before them. -/
def faultyDerived : String :=
  "# DerivedCoreProperties-13.0.0.txt\n\n# Letters\n0041 ; ID_Start\n005A..0041 ; ID_Start\n;\n"

/-- The only line is not acceptable. -/
def faultyList : String := "Pattern_Syntax\n"

theorem faulty_derived_entries : Property.entries faultyDerived.toList =
    .error ⟨4, "005A..0041 ; ID_Start".toList⟩ := by
  rw [show faultyDerived.toList = _ from String.toList_ofList,
    show "005A..0041 ; ID_Start".toList = _ from String.toList_ofList]
  rfl

theorem faulty_version : Property.versionOf? Database.derivedStem.toList faultyDerived.toList =
    some ⟨13, 0, 0⟩ := by
  rw [show faultyDerived.toList = _ from String.toList_ofList,
    show Database.derivedStem.toList = _ from String.toList_ofList]
  rfl

theorem faulty_message :
    (Failure.badLine Database.derivedFile ⟨4, "005A..0041 ; ID_Start".toList⟩).message =
      "DerivedCoreProperties.txt line 4 is unexpected:\n005A..0041 ; ID_Start\n" := by
  decide +kernel

theorem faulty_stopsAt : StopsAt commandLine sampleRequest (treeWith faultyDerived faultyList)
    (.acceptable Database.derivedFile)
    "DerivedCoreProperties.txt line 4 is unexpected:\n005A..0041 ; ID_Start\n" := by
  obtain ⟨derivedRead, _⟩ := readText_treeWith faultyDerived faultyList
  have bad : Database.entriesOf Database.derivedFile faultyDerived = .error _ :=
    Database.entriesOf_eq_error_iff.mpr ⟨_, faulty_derived_entries, rfl⟩
  rw [← faulty_message]
  refine ⟨[.readable Database.derivedFile, .named], _, rfl, ?_, refuses_acceptable derivedRead bad⟩
  rw [List.forall_mem_cons, List.forall_mem_singleton]
  exact ⟨⟨_, derivedRead⟩, ⟨_, _, derivedRead, faulty_version⟩⟩

/-- Of several lines in two files that are not acceptable the first of the first file is reported. -/
theorem run_reports_first_check_faulty :
    commandLine.invocation sampleArguments = .run sampleRequest ∧
      (run commandLine sampleArguments (treeWith faultyDerived faultyList)).1.status = 1 ∧
      (run commandLine sampleArguments (treeWith faultyDerived faultyList)).1.message? =
        some "DerivedCoreProperties.txt line 4 is unexpected:\n005A..0041 ; ID_Start\n" := by
  obtain ⟨_, _, reports, _⟩ := run_reports_first_check sample_asked
  exact ⟨sample_asked, reports _ _ faulty_stopsAt⟩

end Generator
end UnicodeIdentifier
