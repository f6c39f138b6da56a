import UnicodeIdentifier.Proofs.Property.Comment
import UnicodeIdentifier.Proofs.Property.Edit
import UnicodeIdentifier.Proofs.Property.Header

/-!
# Property files that go on

A block of lines is put behind a property file.  If the file did not end its last line, the end that
comes in between may leave a blank on that line, which changes nothing.  The longer file then says what
the file and the block say, and it names the version that the file names.
-/

namespace UnicodeIdentifier
namespace Property

variable {line blanks stem contents more other : List Char} {lines front back : List (List Char)}
  {text block grown name : String} {names : List String} {code : UInt32} {version : Version}

theorem isSkipped_append_blank (blank : Text.IsBlankRun blanks) (line : List Char) :
    isSkipped (line ++ blanks) = isSkipped line := by
  have allBlank : blanks.all Text.isBlank = true := List.all_eq_true.mpr blank
  cases line with
  | nil => simp [isSkipped, allBlank]
  | cons first rest => simp [isSkipped, allBlank]

theorem entryOf?_append_blank (blank : Text.IsBlankRun blanks) (line : List Char) :
    entryOf? (line ++ blanks) = entryOf? line := by
  rw [entryOf?, entryOf?, isSkipped_append_blank blank, Entry.read?_append_blank blank]

theorem acceptable_append_blank_iff (blank : Text.IsBlankRun blanks) (line : List Char) :
    Acceptable (line ++ blanks) ↔ Acceptable line := by
  rw [Acceptable, Acceptable, isSkipped_append_blank blank, Entry.read?_append_blank blank]

theorem exists_trimEnd_append (line : List Char) :
    ∃ blanks, line = Text.trimEnd line ++ blanks ∧ Text.IsBlankRun blanks := by
  obtain ⟨blanks, line_eq, blank, _⟩ := Text.trimEnd_eq_iff.mp (Eq.refl (Text.trimEnd line))
  exact ⟨blanks, line_eq, blank⟩

@[simp]
theorem entryOf?_trimEnd (line : List Char) : entryOf? (Text.trimEnd line) = entryOf? line := by
  obtain ⟨blanks, line_eq, blank⟩ := exists_trimEnd_append line
  rw [← entryOf?_append_blank blank, ← line_eq]

@[simp]
theorem acceptable_trimEnd_iff (line : List Char) :
    Acceptable (Text.trimEnd line) ↔ Acceptable line := by
  obtain ⟨blanks, line_eq, blank⟩ := exists_trimEnd_append line
  rw [← acceptable_append_blank_iff blank, ← line_eq]

/-- Blanks at the ends of lines have no part in what the lines say. -/
theorem saysSame_map_trimEnd (names : List String) (lines : List (List Char)) :
    SaysSame names (lines.map Text.trimEnd) lines := by
  constructor
  · simp only [List.forall_mem_map, acceptable_trimEnd_iff]
  · intro name _ code
    simp only [AssignedIn, List.mem_map, exists_exists_and_eq_and, entryOf?_trimEnd]

theorem saysSame_of_map_trimEnd_eq (names : List String)
    (same : front.map Text.trimEnd = back.map Text.trimEnd) : SaysSame names front back := by
  have trimmed := saysSame_map_trimEnd names front
  rw [same] at trimmed
  exact trimmed.symm.trans (saysSame_map_trimEnd names back)

/-- The longer file is read exactly if the file and the block are. -/
theorem acceptable_grown_iff (grows : Text.Grown contents more other) :
    (∀ line ∈ Text.lines other, Acceptable line) ↔
      (∀ line ∈ Text.lines contents, Acceptable line) ∧ ∀ line ∈ Text.lines more, Acceptable line := by
  obtain ⟨kept, lines_eq, same⟩ := grows.exists_lines_eq
  rw [lines_eq, List.forall_mem_append, (saysSame_of_map_trimEnd_eq [] same).acceptable_iff]

/-- The longer file assigns what the file and the block assign. -/
theorem assigns_grown_iff (grows : Text.Grown text.toList block.toList grown.toList) :
    Assigns grown name code ↔ Assigns text name code ∨ Assigns block name code := by
  obtain ⟨kept, lines_eq, same⟩ := grows.exists_lines_eq
  rw [assigns_iff_assignedIn, assigns_iff_assignedIn, assigns_iff_assignedIn, lines_eq,
    assignedIn_append,
    (saysSame_of_map_trimEnd_eq [name] same).assignedIn_iff name (List.mem_singleton_self name)]

/-- A header that is the whole file remains the first line of the longer file. -/
theorem versionOf?_grown (grows : Text.Grown contents more other)
    (named : versionOf? stem contents = some version) : versionOf? stem other = some version := by
  have isHeader := versionOf?_eq_some_iff.mp named
  have noReturn : (Text.firstLine contents).getLast? ≠ some '\r' := by
    rw [isHeader.getLast?_eq]
    decide
  rw [versionOf?_congr (grows.firstLine_eq isHeader.ne_nil noReturn), named]

/-- Every line of the text is a data line with an entry that passes the test. -/
def HasData (text : String) (test : Entry → Prop) : Prop :=
  ∀ line ∈ Text.lines text.toList, ∃ entry, Entry.read? line = some entry ∧ test entry

namespace HasData

variable {test : Entry → Prop} (data : HasData text test)

include data

theorem acceptable : ∀ line ∈ Text.lines text.toList, Acceptable line := by
  intro line member
  obtain ⟨entry, isRead, _⟩ := data line member
  exact acceptable_iff.mpr (Or.inr (Or.inr ⟨entry, isRead⟩))

theorem exists_of_assigns (assigned : Assigns text name code) : ∃ entry, test entry ∧
    entry.name = name ∧ code ∈ entry.interval := by
  obtain ⟨line, member, _, entry, isRead, named, within⟩ := assigned
  obtain ⟨found, isFound, passes⟩ := data line member
  obtain rfl : entry = found := Option.some.inj (isRead.symm.trans isFound)
  exact ⟨entry, passes, named, within⟩

end HasData

end Property
end UnicodeIdentifier
