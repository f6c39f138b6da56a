import UnicodeIdentifier.Proofs.Generator.Meaning
import UnicodeIdentifier.Proofs.Property.Header

/-!
# Runs on files with other line ends

The entries of a file, the line that is refused with its number, and the version that the file names are
taken from its lines.  Input files without carriage returns can therefore be given with other line ends,
and with a line end behind the last line, and the run ends as before.
-/

namespace UnicodeIdentifier

namespace Property

variable {contents other stem : List Char}

/-- The entries are read, or a line is refused, in the same way; a text that was empty may have become
a blank line, which is skipped. -/
theorem entries_eq_of_sameUpToEnds (same : Text.SameUpToEnds contents other)
    (noReturn : '\r' ∉ contents) : entries other = entries contents := by
  rw [entries, entries]
  rcases same.lines_eq noReturn with lines_eq | ⟨rfl, lines_eq⟩
  · rw [lines_eq]
  · rw [lines_eq]
    rfl

end Property

namespace Database

variable {text other : String}

theorem ofDerived_eq_of_sameUpToEnds (same : Text.SameUpToEnds text.toList other.toList)
    (noReturn : '\r' ∉ text.toList) : ofDerived other = ofDerived text := by
  rw [ofDerived, ofDerived, Property.versionOf?_congr (same.firstLine_eq noReturn), entriesOf,
    entriesOf, Property.entries_eq_of_sameUpToEnds same noReturn]

theorem ofList_eq_of_sameUpToEnds (same : Text.SameUpToEnds text.toList other.toList)
    (noReturn : '\r' ∉ text.toList) : ofList other = ofList text := by
  rw [ofList, ofList, entriesOf, entriesOf, Property.entries_eq_of_sameUpToEnds same noReturn]

end Database

namespace Generator

open Database (ReadsAs)

variable {setup : Setup} {arguments : List String} {request : Request} {left right : FileTree}
  {derived list otherDerived otherList : String}

/-- Runs with the same arguments, on trees that differ at most in the two input files, end alike if the
files of the one hold no carriage returns and those of the other differ from them only in having a
carriage return before some of their line feeds and, perhaps, a last line that is ended. -/
theorem run_endAlike_of_sameUpToEnds (asked : setup.invocation arguments = .run request)
    (same : FileTree.SameExcept (inputsOf request) left right)
    (reads : ReadsAs left.readText request.directory derived list)
    (otherReads : ReadsAs right.readText request.directory otherDerived otherList)
    (derivedNoReturn : '\r' ∉ derived.toList) (listNoReturn : '\r' ∉ list.toList)
    (derivedSame : Text.SameUpToEnds derived.toList otherDerived.toList)
    (listSame : Text.SameUpToEnds list.toList otherList.toList) :
    EndAlike setup request (run setup arguments left) (run setup arguments right) := by
  have shape : FileTree.SameShape left right :=
    same.sameShape (exists_readBytes_of_readsAs reads) (exists_readBytes_of_readsAs otherReads)
  apply endAlike_of_classifierIn_eq asked same shape
  rw [reads.classifierIn_eq, otherReads.classifierIn_eq,
    Database.ofDerived_eq_of_sameUpToEnds derivedSame derivedNoReturn,
    Database.ofList_eq_of_sameUpToEnds listSame listNoReturn]

/-- The header of the derived properties. -/
def headerLine : List Char := "# DerivedCoreProperties-13.0.0.txt".toList

/-- The data lines of the small database without the last line feed. -/
def dataLines : List Char := "0041..0043 ; ID_Start\n0041..0043 ; ID_Continue".toList

/-- The derived properties of the small database with two kinds of line ends. -/
def mixedDerived : String :=
  String.ofList (headerLine ++ '\r' :: '\n' :: (dataLines ++ ['\r', '\n']))

/-- A property list whose last line is refused and is not ended. -/
def unendedLines : List Char := "0042 ; Pattern_Syntax\n0043 Pattern_Syntax".toList

theorem toList_sampleDerived :
    sampleDerived.toList = headerLine ++ '\n' :: (dataLines ++ ['\n']) := by
  rw [show sampleDerived.toList = _ from String.toList_ofList,
    show headerLine = _ from String.toList_ofList, show dataLines = _ from String.toList_ofList]
  rfl

theorem sameUpToEnds_mixedDerived :
    Text.SameUpToEnds sampleDerived.toList mixedDerived.toList := by
  rw [toList_sampleDerived, mixedDerived, String.toList_ofList]
  exact .reended (.append headerLine (.putReturn (.append dataLines (.putReturn .nil))))

/-- Runs that succeed, with an empty property list and with a blank line instead, and runs that are
refused for the unended line. -/
theorem run_endAlike_of_sameUpToEnds_sample :
    EndAlike commandLine sampleRequest (run commandLine sampleArguments (treeWith sampleDerived ""))
        (run commandLine sampleArguments (treeWith mixedDerived "\n")) ∧
      EndAlike commandLine sampleRequest
        (run commandLine sampleArguments (treeWith sampleDerived (String.ofList unendedLines)))
        (run commandLine sampleArguments
          (treeWith mixedDerived (String.ofList (unendedLines ++ ['\r', '\n'])))) := by
  have noReturn : '\r' ∉ sampleDerived.toList := by
    rw [show sampleDerived.toList = _ from String.toList_ofList]
    decide
  constructor
  · exact run_endAlike_of_sameUpToEnds sample_asked (sameExcept_treeWith _ _ _ _)
      (readsAs_treeWith _ _) (readsAs_treeWith _ _) noReturn (by decide) sameUpToEnds_mixedDerived
      (.ended (by decide) (.refl ['\n']))
  · refine run_endAlike_of_sameUpToEnds sample_asked (sameExcept_treeWith _ _ _ _)
      (readsAs_treeWith _ _) (readsAs_treeWith _ _) noReturn ?_ sameUpToEnds_mixedDerived ?_
    · rw [String.toList_ofList]
      decide
    · rw [String.toList_ofList, String.toList_ofList]
      exact .ended (by decide) (.append unendedLines (.putReturn .nil))

end Generator
end UnicodeIdentifier
