import UnicodeIdentifier.Classifier.Source
import UnicodeIdentifier.Proofs.Numeral.Written

/-!
# The lines of a classifier

The source text of a classifier is a list of lines.  Each mask has a line with a numeral for it, and
under the name of each table come the lines of one view and then those of the other, one line for each
interval and in the order of the intervals.
-/

namespace UnicodeIdentifier

open Numeral (IsWritten)

/-- The text consists of the lines, each ended by a line feed. -/
structure Text.ConsistsOf (text : String) (lines : List (List Char)) : Prop where
  noLineEnd : ∀ line ∈ lines, NoLineEnd line
  toList_eq : text.toList = unlines lines

/-- The line gives the three parts of the version in decimal digits. -/
def Version.IsLine (version : Version) (line : List Char) : Prop :=
  ∃ major minor micro, IsWritten 10 1 major version.major.toNat ∧
    IsWritten 10 1 minor version.minor.toNat ∧ IsWritten 10 1 micro version.micro.toNat ∧
    line = "pub const UNICODE_VERSION: (u8, u8, u8) = (".toList ++ major ++ ", ".toList ++ minor ++
      ", ".toList ++ micro ++ ");".toList

/-- The line gives the mask under the name in thirty-two hexadecimal digits. -/
def AsciiMask.IsLine (name : String) (mask : AsciiMask) (line : List Char) : Prop :=
  ∃ digits, IsWritten 16 32 digits mask.toNat ∧ digits.length = 32 ∧
    line = "pub(crate) const ".toList ++ name.toList ++ ": u128 = 0x".toList ++ digits ++ [';']

/-- The line gives the two ends of the interval in hexadecimal digits, four or more each. -/
def Interval.IsLine (interval : Interval) (line : List Char) : Prop :=
  ∃ lo hi, IsWritten 16 4 lo interval.lo.toNat ∧ IsWritten 16 4 hi interval.hi.toNat ∧
    line = "        (0x".toList ++ lo ++ ", 0x".toList ++ hi ++ "),".toList

namespace IntervalTable

/-- The lines give the intervals under the name of a view, one line for each and in their order. -/
def AreViewLines (view : String) (intervals : List Interval) (lines : List (List Char)) : Prop :=
  ∃ pairs, List.Forall₂ Interval.IsLine intervals pairs ∧
    lines = ["    ".toList ++ view.toList ++ ": &[".toList] ++ pairs ++ ["    ],".toList]

/-- The lines give the table under the name, one view after the other. -/
def AreLines (name : String) (table : IntervalTable) (lines : List (List Char)) : Prop :=
  ∃ narrow wide, AreViewLines "latin1" table.narrow narrow ∧
    AreViewLines "wide" table.wide.toList wide ∧
    lines = ["pub static ".toList ++ name.toList ++ ": RangeTable = RangeTable \x7b".toList] ++
      narrow ++ wide ++ ["\x7d;".toList]

end IntervalTable

variable {text other : String} {line : List Char} {lines others : List (List Char)}

namespace Text.ConsistsOf

theorem single (noLineEnd : NoLineEnd line) (toList_eq : text.toList = line ++ ['\n']) :
    ConsistsOf text [line] :=
  ⟨List.forall_mem_singleton.mpr noLineEnd, by simp [toList_eq, unlines]⟩

theorem append (consists : ConsistsOf text lines) (otherConsists : ConsistsOf other others) :
    ConsistsOf (text ++ other) (lines ++ others) where
  noLineEnd := List.forall_mem_append.mpr ⟨consists.noLineEnd, otherConsists.noLineEnd⟩
  toList_eq := by
    rw [String.toList_append, consists.toList_eq, otherConsists.toList_eq, unlines, unlines, unlines,
      List.flatMap_append]

theorem lines_eq (consists : ConsistsOf text lines) : Text.lines text.toList = lines := by
  rw [consists.toList_eq]
  exact lines_unlines fun line member => (consists.noLineEnd line member).isPlain

end Text.ConsistsOf

open Text (ConsistsOf NoLineEnd)

theorem Version.exists_isLine (version : Version) : ∃ line, version.IsLine line ∧ ConsistsOf
    ("pub const UNICODE_VERSION: (u8, u8, u8) = (" ++ version.source ", " ++ ");\n") [line] := by
  have isWritten (value : Nat) : IsWritten 10 1 (Numeral.decimal value).toList value := by
    rw [Numeral.toList_decimal]
    exact Numeral.isWritten_writeChars (by decide) (by decide) (by decide)
  refine ⟨_, ⟨_, _, _, isWritten _, isWritten _, isWritten _, rfl⟩, .single ?_ ?_⟩
  · simp [(isWritten _).noLineEnd]
  · simp [source]

theorem AsciiMask.exists_isLine (name : String) (plain : NoLineEnd name.toList) (mask : AsciiMask) :
    ∃ line, mask.IsLine name line ∧
      ConsistsOf ("pub(crate) const " ++ name ++ ": u128 = " ++ mask.source ++ ";\n") [line] := by
  have isWritten : IsWritten 16 32 (Numeral.writeChars 16 32 mask.toNat) mask.toNat :=
    Numeral.isWritten_writeChars (by decide) (by decide) (by decide)
  have small : mask.toNat < 16 ^ 32 := mask.isLt
  refine ⟨_, ⟨_, isWritten, Numeral.length_writeChars (by decide) small, rfl⟩, .single ?_ ?_⟩
  · simp [plain, isWritten.noLineEnd]
  · simp [source, Numeral.write]

theorem Interval.exists_isLine (interval : Interval) :
    ∃ line, interval.IsLine line ∧ ConsistsOf interval.source [line] := by
  have lo := Numeral.isWritten_hex4 interval.lo
  have hi := Numeral.isWritten_hex4 interval.hi
  refine ⟨_, ⟨_, _, lo, hi, rfl⟩, .single ?_ ?_⟩
  · simp [lo.noLineEnd, hi.noLineEnd]
  · simp [source]

theorem Interval.exists_areLines (intervals : List Interval) :
    ∃ lines, List.Forall₂ IsLine intervals lines ∧
      ConsistsOf (String.join (intervals.map source)) lines := by
  induction intervals with
  | nil => exact ⟨[], .nil, nofun, rfl⟩
  | cons interval rest ih =>
    obtain ⟨line, isLine, consists⟩ := interval.exists_isLine
    obtain ⟨lines, areLines, others⟩ := ih
    refine ⟨line :: lines, .cons isLine areLines, ?_⟩
    simpa [String.join_cons] using consists.append others

namespace IntervalTable

theorem exists_areViewLines (view : String) (plain : NoLineEnd view.toList)
    (intervals : List Interval) :
    ∃ lines, AreViewLines view intervals lines ∧ ConsistsOf (viewSource view intervals) lines := by
  obtain ⟨pairs, arePairs, consists⟩ := Interval.exists_areLines intervals
  have opening : ConsistsOf ("    " ++ view ++ ": &[\n")
      ["    ".toList ++ view.toList ++ ": &[".toList] :=
    .single (by simp [plain]) (by simp)
  have closing : ConsistsOf "    ],\n" ["    ],".toList] := .single (by simp) (by simp)
  exact ⟨_, ⟨pairs, arePairs, rfl⟩, (opening.append consists).append closing⟩

theorem exists_areLines (name : String) (plain : NoLineEnd name.toList) (table : IntervalTable) :
    ∃ lines, table.AreLines name lines ∧ ConsistsOf (table.source name) lines := by
  obtain ⟨narrow, areNarrow, narrowConsists⟩ :=
    exists_areViewLines "latin1" (by decide) table.narrow
  obtain ⟨wide, areWide, wideConsists⟩ := exists_areViewLines "wide" (by decide) table.wide.toList
  have opening : ConsistsOf ("pub static " ++ name ++ ": RangeTable = RangeTable \x7b\n")
      ["pub static ".toList ++ name.toList ++ ": RangeTable = RangeTable \x7b".toList] :=
    .single (by simp [plain]) (by simp)
  have closing : ConsistsOf "\x7d;\n" ["\x7d;".toList] := .single (by simp) (by simp)
  exact ⟨_, ⟨narrow, wide, areNarrow, areWide, rfl⟩,
    ((opening.append narrowConsists).append wideConsists).append closing⟩

end IntervalTable

theorem Classifier.source_eq (classifier : Classifier) : classifier.source =
    "use crate::table::RangeTable;\n" ++ "\n" ++
      ("pub const UNICODE_VERSION: (u8, u8, u8) = (" ++ classifier.version.source ", " ++ ");\n") ++
      "\n" ++
      ("pub(crate) const " ++ "ASCII_START" ++ ": u128 = " ++ classifier.startMask.source ++ ";\n") ++
      ("pub(crate) const " ++ "ASCII_CONTINUE" ++ ": u128 = " ++ classifier.continueMask.source ++
        ";\n") ++
      "\n" ++ classifier.start.source "ID_START" ++ "\n" ++
      classifier.continuing.source "ID_CONTINUE" := by
  have opening : "use crate::table::RangeTable;\n\n" = "use crate::table::RangeTable;\n" ++ "\n" := by
    rfl
  have versionEnd : ");\n\n" = ");\n" ++ "\n" := by rfl
  have maskEnd : ";\n\n" = ";\n" ++ "\n" := by rfl
  have startHead : "pub(crate) const ASCII_START: u128 = " =
      "pub(crate) const " ++ "ASCII_START" ++ ": u128 = " := by rfl
  have continueHead : "pub(crate) const ASCII_CONTINUE: u128 = " =
      "pub(crate) const " ++ "ASCII_CONTINUE" ++ ": u128 = " := by rfl
  unfold source
  simp only [opening, versionEnd, maskEnd, startHead, continueHead, String.append_assoc,
    -String.reduceAppend]

/-- The source text of a classifier has the version in its third line and the masks in its fifth and
sixth.  Then come the lines of both tables, with every pair in its place. -/
theorem Classifier.exists_lines_source (classifier : Classifier) :
    ∃ version startMask continueMask start continuing, classifier.version.IsLine version ∧
      classifier.startMask.IsLine "ASCII_START" startMask ∧
      classifier.continueMask.IsLine "ASCII_CONTINUE" continueMask ∧
      classifier.start.AreLines "ID_START" start ∧
      classifier.continuing.AreLines "ID_CONTINUE" continuing ∧
      Text.lines classifier.source.toList =
        ["use crate::table::RangeTable;".toList, [], version, [], startMask, continueMask, []] ++
          start ++ [[]] ++ continuing := by
  obtain ⟨version, isVersion, versionConsists⟩ := classifier.version.exists_isLine
  obtain ⟨startMask, isStartMask, startMaskConsists⟩ :=
    AsciiMask.exists_isLine "ASCII_START" (by decide) classifier.startMask
  obtain ⟨continueMask, isContinueMask, continueMaskConsists⟩ :=
    AsciiMask.exists_isLine "ASCII_CONTINUE" (by decide) classifier.continueMask
  obtain ⟨start, areStart, startConsists⟩ :=
    IntervalTable.exists_areLines "ID_START" (by decide) classifier.start
  obtain ⟨continuing, areContinuing, continuingConsists⟩ :=
    IntervalTable.exists_areLines "ID_CONTINUE" (by decide) classifier.continuing
  have opening : ConsistsOf "use crate::table::RangeTable;\n"
      ["use crate::table::RangeTable;".toList] := .single (by simp) (by simp)
  have blank : ConsistsOf "\n" [[]] := .single (by simp) (by simp)
  have consists := ((((((((opening.append blank).append versionConsists).append blank).append
    startMaskConsists).append continueMaskConsists).append blank).append startConsists).append
    blank).append continuingConsists
  refine ⟨version, startMask, continueMask, start, continuing, isVersion, isStartMask,
    isContinueMask, areStart, areContinuing, ?_⟩
  rw [source_eq]
  exact consists.lines_eq

end UnicodeIdentifier
