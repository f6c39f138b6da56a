import UnicodeIdentifier.Proofs.Database.Meaning
import UnicodeIdentifier.Proofs.Generator
import UnicodeIdentifier.Proofs.Numeral.Written

/-!
# Refused databases

Texts that parse are refused exactly when some value begins an identifier but does not continue one,
after the pattern characters have been taken from both sets.  The least such value is named.  A pattern
character is in neither set, so it is never the reason for a refusal.
-/

namespace UnicodeIdentifier

variable {code : UInt32}

/-- The words with which the value of the digits is refused. -/
def refusal (digits : String) : String :=
  "U+" ++ digits ++ " is ID_Start but not ID_Continue; refusing to emit tables\n"

theorem refusal_injective : Function.Injective refusal := by
  intro digits other same
  rw [← String.toList_inj] at same ⊢
  simp only [refusal, String.toList_append] at same
  exact List.append_cancel_left (List.append_cancel_right same)

theorem getLast?_message (cause : FileError) :
    cause.message.toList.getLast? = some ')' ∨ cause.message.toList.getLast? = some '8' := by
  cases cause with
  | other words number =>
    rw [FileError.message, String.toList_append]
    exact Or.inl List.getLast?_concat
  | notUtf8 => exact Or.inr (by decide +kernel)
  | notFound => exact Or.inl (by decide +kernel)
  | notADirectory => exact Or.inl (by decide +kernel)
  | isADirectory => exact Or.inl (by decide +kernel)
  | nameTooLong => exact Or.inl (by decide +kernel)

/-- A file that cannot be written is never reported in the words of a refusal, which end otherwise. -/
theorem message_unwritable_ne_refusal (path : String) (cause : FileError) (digits : String) :
    (Failure.unwritable path cause).message ≠ refusal digits := by
  intro same
  have words : (path ++ ": ").toList ++ cause.message.toList ++ ['\n'] =
      ("U+" ++ digits).toList ++ " is ID_Start but not ID_Continue; refusing to emit tables".toList ++
        ['\n'] := by
    simpa [Failure.message, refusal] using congrArg String.toList same
  have lasts := congrArg List.getLast? (List.append_cancel_right words)
  rw [List.getLast?_append, List.getLast?_append] at lasts
  rcases getLast?_message cause with isLast | isLast
  · simp [isLast] at lasts
  · simp [isLast] at lasts

namespace Database

variable {directory derived list : String} {version : Version} {cause : Failure}
  {read : String → Except FileError String}

/-- The least value that begins an identifier but does not continue one, by the two texts. -/
def IsLeastUncontinued (derived list : String) (code : UInt32) : Prop :=
  (Begins derived list code ∧ ¬ Continues derived list code) ∧
    ∀ other, Begins derived list other → ¬ Continues derived list other → code ≤ other

theorem begins_and_not_continues_iff : Begins derived list code ∧ ¬ Continues derived list code ↔
    Property.Assigns derived "ID_Start" code ∧ ¬ Property.Assigns derived "ID_Continue" code ∧
      ¬ IsPattern list code := by
  rw [Begins, Continues]
  constructor
  · intro uncontinued
    obtain ⟨⟨starts, notPattern⟩, notBoth⟩ := uncontinued
    exact ⟨starts, fun continues => notBoth ⟨continues, notPattern⟩, notPattern⟩
  · intro uncontinued
    obtain ⟨starts, notContinues, notPattern⟩ := uncontinued
    exact ⟨⟨starts, notPattern⟩, fun both => notContinues both.1⟩

/-- Texts that parse are refused only for the least value that begins an identifier without continuing
one. -/
theorem Parses.classifierIn_eq_error_iff (parses : Parses derived list version)
    (reads : ReadsAs read directory derived list) : classifierIn read directory = .error cause ↔
      ∃ code, IsLeastUncontinued derived list code ∧ .notContinuing code = cause := by
  obtain ⟨derivedEntries, listEntries, isDerived, isList, made⟩ := parses.exists_classifierIn_eq reads
  simp only [made, classifierOf_eq_error_iff, mem_startOf isDerived isList,
    mem_continuingOf isDerived isList, IsLeastUncontinued, and_assoc]

/-- If some value begins an identifier without continuing one, there is a least such value. -/
theorem exists_isLeastUncontinued (begins : Begins derived list code)
    (notContinues : ¬ Continues derived list code) :
    ∃ least, IsLeastUncontinued derived list least := by
  obtain ⟨least, member, noneBelow⟩ := (measure UInt32.toNat).wf.has_min
    {other | Begins derived list other ∧ ¬ Continues derived list other} ⟨code, begins, notContinues⟩
  refine ⟨least, member, fun other otherBegins otherNot => ?_⟩
  exact UInt32.not_lt.mp (noneBelow other ⟨otherBegins, otherNot⟩)

end Database

namespace Generator

open Database (Begins Continues IsLeastUncontinued IsPattern Parses ReadsAs)

variable {setup : Setup} {arguments : List String} {request : Request} {tree : FileTree}
  {derived list digits : String} {version : Version}

/-- The run stops with status one and with the words of a refusal, and leaves the tree as it was. -/
structure StopsRefusing (setup : Setup) (arguments : List String) (tree : FileTree)
    (digits : String) : Prop where
  status_eq : (run setup arguments tree).1.status = 1
  message_eq : (run setup arguments tree).1.message? = some (refusal digits)
  tree_eq : (run setup arguments tree).2 = tree

theorem stopsRefusing_of_isLeastUncontinued (asked : setup.invocation arguments = .run request)
    (reads : ReadsAs tree.readText request.directory derived list)
    (parses : Parses derived list version) (isLeast : IsLeastUncontinued derived list code) :
    StopsRefusing setup arguments tree (Numeral.hex4 code) := by
  have refused := (parses.classifierIn_eq_error_iff reads).mpr ⟨code, isLeast, rfl⟩
  have ends := run_of_classifierIn_error asked refused
  exact ⟨by rw [ends]; rfl, by rw [ends]; rfl, by rw [ends]⟩

theorem StopsRefusing.exists_isLeastUncontinued (stops : StopsRefusing setup arguments tree digits)
    (asked : setup.invocation arguments = .run request)
    (reads : ReadsAs tree.readText request.directory derived list)
    (parses : Parses derived list version) :
    ∃ code, IsLeastUncontinued derived list code ∧ Numeral.hex4 code = digits := by
  rcases outcomeOn_cases setup request tree with ended | ⟨cause, failed⟩
  · have succeeded := (status_eq_zero_iff asked).mpr ended
    rw [stops.status_eq] at succeeded
    cases succeeded
  · have words := stops.message_eq
    rw [run_of_outcomeOn_error asked failed] at words
    have message_eq : cause.message = refusal digits := Option.some.inj words
    obtain ⟨_, refused | ⟨_, fileError, _, _, rfl⟩⟩ := outcomeOn_eq_error_iff.mp failed
    · obtain ⟨code, isLeast, rfl⟩ := (parses.classifierIn_eq_error_iff reads).mp refused
      exact ⟨code, isLeast, refusal_injective message_eq⟩
    · exact absurd message_eq (message_unwritable_ne_refusal _ fileError digits)

/-- On texts that parse a run refuses exactly when some value begins an identifier but does not continue
one, and it names the least such value in capital hexadecimal digits, four or more.  Such a value has
the one property, lacks the other and is no pattern character, so a pattern character is never named. -/
theorem run_refuses_iff (asked : setup.invocation arguments = .run request)
    (reads : ReadsAs tree.readText request.directory derived list)
    (parses : Parses derived list version) :
    ((∃ digits, StopsRefusing setup arguments tree digits) ↔
      ∃ code, Begins derived list code ∧ ¬ Continues derived list code) ∧
    (∀ digits, StopsRefusing setup arguments tree digits ↔
      ∃ code, IsLeastUncontinued derived list code ∧ Numeral.hex4 code = digits) ∧
    (∀ code, Numeral.IsWritten 16 4 (Numeral.hex4 code).toList code.toNat) ∧
    ((∃ digits, StopsRefusing setup arguments tree digits) ↔
      ∃ code, Property.Assigns derived "ID_Start" code ∧
        ¬ Property.Assigns derived "ID_Continue" code ∧ ¬ IsPattern list code) ∧
    (∀ code, IsPattern list code → ¬ StopsRefusing setup arguments tree (Numeral.hex4 code)) := by
  have stops_iff : ∀ digits, StopsRefusing setup arguments tree digits ↔
      ∃ code, IsLeastUncontinued derived list code ∧ Numeral.hex4 code = digits := by
    intro digits
    constructor
    · intro stops
      exact stops.exists_isLeastUncontinued asked reads parses
    · rintro ⟨code, isLeast, rfl⟩
      exact stopsRefusing_of_isLeastUncontinued asked reads parses isLeast
  have exists_iff : (∃ digits, StopsRefusing setup arguments tree digits) ↔
      ∃ code, Begins derived list code ∧ ¬ Continues derived list code := by
    constructor
    · intro ⟨digits, stops⟩
      obtain ⟨code, isLeast, _⟩ := (stops_iff digits).mp stops
      exact ⟨code, isLeast.1⟩
    · intro ⟨code, begins, notContinues⟩
      obtain ⟨least, isLeast⟩ := Database.exists_isLeastUncontinued begins notContinues
      exact ⟨_, (stops_iff _).mpr ⟨least, isLeast, rfl⟩⟩
  refine ⟨exists_iff, stops_iff, Numeral.isWritten_hex4, ?_, fun code isPattern stops => ?_⟩
  · simp only [exists_iff, Database.begins_and_not_continues_iff]
  · obtain ⟨least, isLeast, same⟩ := (stops_iff _).mp stops
    obtain rfl := Numeral.hex4_injective same
    exact isLeast.1.1.2 isPattern

/-- Three letters begin an identifier and only the last of them continues one. -/
def uncontinuedDerived : String :=
  "# DerivedCoreProperties-13.0.0.txt\n0042..0044 ; ID_Start\n0044 ; ID_Continue\n"

theorem uncontinued_entries : Property.entries uncontinuedDerived.toList =
    .ok [⟨⟨0x42, 0x44⟩, "ID_Start"⟩, ⟨⟨0x44, 0x44⟩, "ID_Continue"⟩] := by
  rw [show uncontinuedDerived.toList = _ from String.toList_ofList]
  rfl

theorem uncontinued_parses : Parses uncontinuedDerived sampleList ⟨13, 0, 0⟩ where
  named := by
    rw [show uncontinuedDerived.toList = _ from String.toList_ofList,
      show Database.derivedStem.toList = _ from String.toList_ofList]
    rfl
  derived_acceptable := (Property.entries_eq_ok_iff.mp uncontinued_entries).1
  list_acceptable := (Property.entries_eq_ok_iff.mp sample_list_entries).1

theorem isLeastUncontinued_second : IsLeastUncontinued uncontinuedDerived sampleList 0x43 := by
  have begins_iff (other : UInt32) : Begins uncontinuedDerived sampleList other ↔
      (0x42 ≤ other ∧ other ≤ 0x44) ∧ ¬ (0x42 ≤ other ∧ other ≤ 0x42) := by
    rw [← Database.mem_startOf uncontinued_entries sample_list_entries]
    simp [Database.startOf, Database.patternOf]
  have continues_iff (other : UInt32) : Continues uncontinuedDerived sampleList other ↔
      (0x44 ≤ other ∧ other ≤ 0x44) ∧ ¬ (0x42 ≤ other ∧ other ≤ 0x42) := by
    rw [← Database.mem_continuingOf uncontinued_entries sample_list_entries]
    simp [Database.continuingOf, Database.patternOf]
  simp only [IsLeastUncontinued, begins_iff, continues_iff]
  refine ⟨by decide, fun other begins notContinues => ?_⟩
  simp only [UInt32.le_iff_toNat_le, UInt32.reduceToNat] at begins notContinues ⊢
  omega

/-- Of two letters that begin an identifier without continuing one, the first is a pattern character and
the second is named. -/
theorem run_refuses_second : commandLine.invocation sampleArguments = .run sampleRequest ∧
    ReadsAs (treeWith uncontinuedDerived sampleList).readText sampleRequest.directory
      uncontinuedDerived sampleList ∧
    Parses uncontinuedDerived sampleList ⟨13, 0, 0⟩ ∧
    StopsRefusing commandLine sampleArguments (treeWith uncontinuedDerived sampleList) "0043" := by
  obtain ⟨derivedRead, listRead⟩ := readText_treeWith uncontinuedDerived sampleList
  obtain ⟨_, stops_iff, _⟩ :=
    run_refuses_iff sample_asked ⟨derivedRead, listRead⟩ uncontinued_parses
  have named : Numeral.hex4 0x43 = "0043" := by
    decide +kernel
  exact ⟨sample_asked, ⟨derivedRead, listRead⟩, uncontinued_parses,
    (stops_iff "0043").mpr ⟨0x43, isLeastUncontinued_second, named⟩⟩

end Generator
end UnicodeIdentifier
