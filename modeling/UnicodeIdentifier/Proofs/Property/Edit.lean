import Mathlib.Logic.Relation
import UnicodeIdentifier.Proofs.Interval
import UnicodeIdentifier.Proofs.Property.File

/-!
# Edits that leave the meaning of a property file alone

What a file says about some properties is which lines it lets pass and which values its data lines
assign.  The order of the lines, repetitions, comments, blanks, lines about other properties and the
way in which a range is cut into pieces have no part in it.  Each single edit keeps what is said, and
so does every sequence of edits and undone edits.
-/

namespace UnicodeIdentifier
namespace Property

variable {line : List Char} {lines before after middle front back pieces : List (List Char)}
  {text : String} {names : List String} {name : String} {code : UInt32} {entry : Entry}
  {parts : List Interval}

/-- One of the lines gives the named property to the value. -/
def AssignedIn (lines : List (List Char)) (name : String) (code : UInt32) : Prop :=
  ∃ line ∈ lines, ∃ entry, entryOf? line = some entry ∧ entry.name = name ∧ code ∈ entry.interval

theorem assigns_iff_assignedIn :
    Assigns text name code ↔ AssignedIn (Text.lines text.toList) name code := by
  simp only [Assigns, AssignedIn, entryOf?_eq_some_iff]
  constructor
  · intro assigned
    obtain ⟨line, member, kept, entry, isRead, given⟩ := assigned
    exact ⟨line, member, entry, ⟨kept, isRead⟩, given⟩
  · intro assigned
    obtain ⟨line, member, entry, ⟨kept, isRead⟩, given⟩ := assigned
    exact ⟨line, member, kept, entry, isRead, given⟩

@[simp]
theorem assignedIn_append : AssignedIn (front ++ back) name code ↔
    AssignedIn front name code ∨ AssignedIn back name code := by
  simp only [AssignedIn, List.mem_append, or_and_right, exists_or]

theorem assignedIn_cons : AssignedIn (line :: lines) name code ↔
    AssignedIn [line] name code ∨ AssignedIn lines name code := by
  rw [← List.singleton_append, assignedIn_append]

@[simp]
theorem assignedIn_singleton : AssignedIn [line] name code ↔
    ∃ entry, entryOf? line = some entry ∧ entry.name = name ∧ code ∈ entry.interval := by
  simp [AssignedIn]

theorem AssignedIn.of_mem (member : line ∈ lines) (assigned : AssignedIn [line] name code) :
    AssignedIn lines name code :=
  ⟨line, member, assignedIn_singleton.mp assigned⟩

theorem not_assignedIn_of_isSkipped (skipped : ∀ line ∈ lines, isSkipped line = true) :
    ¬ AssignedIn lines name code := by
  intro assigned
  obtain ⟨line, member, entry, isEntry, _⟩ := assigned
  have kept := (entryOf?_eq_some_iff.mp isEntry).1
  exact absurd (kept.symm.trans (skipped line member)) Bool.false_ne_true

/-- A line is acceptable when it is skipped or has an entry. -/
theorem acceptable_iff_entryOf? :
    Acceptable line ↔ isSkipped line = true ∨ ∃ entry, entryOf? line = some entry := by
  simp only [entryOf?_eq_some_iff, Acceptable, Option.isSome_iff_exists]
  cases isSkipped line with
  | true => simp
  | false => simp

/-- Two lists of lines say the same about the named properties. -/
structure SaysSame (names : List String) (before after : List (List Char)) : Prop where
  acceptable_iff : (∀ line ∈ before, Acceptable line) ↔ ∀ line ∈ after, Acceptable line
  assignedIn_iff : ∀ name ∈ names, ∀ code,
    AssignedIn before name code ↔ AssignedIn after name code

namespace SaysSame

theorem refl (names : List String) (lines : List (List Char)) : SaysSame names lines lines :=
  ⟨Iff.rfl, fun _ _ _ => Iff.rfl⟩

theorem symm (same : SaysSame names before after) : SaysSame names after before :=
  ⟨same.acceptable_iff.symm, fun name member code => (same.assignedIn_iff name member code).symm⟩

theorem trans (first : SaysSame names before middle) (second : SaysSame names middle after) :
    SaysSame names before after :=
  ⟨first.acceptable_iff.trans second.acceptable_iff, fun name member code =>
    (first.assignedIn_iff name member code).trans (second.assignedIn_iff name member code)⟩

theorem add (acceptable : Acceptable line)
    (assigned : ∀ name ∈ names, ∀ code, AssignedIn [line] name code → AssignedIn lines name code) :
    SaysSame names lines (line :: lines) := by
  constructor
  · rw [List.forall_mem_cons, and_iff_right acceptable]
  · intro name member code
    rw [assignedIn_cons, or_iff_right_of_imp (assigned name member code)]

theorem replace (frontAcceptable : ∀ line ∈ front, Acceptable line)
    (backAcceptable : ∀ line ∈ back, Acceptable line)
    (assigned : ∀ name ∈ names, ∀ code, AssignedIn front name code ↔ AssignedIn back name code)
    (lines : List (List Char)) : SaysSame names (front ++ lines) (back ++ lines) := by
  constructor
  · simp only [List.forall_mem_append]
    rw [and_iff_right frontAcceptable, and_iff_right backAcceptable]
  · intro name member code
    rw [assignedIn_append, assignedIn_append, assigned name member code]

end SaysSame

/-- An edit of the lines of a property file of which only the named properties are used. -/
inductive Edit (names : List String) : List (List Char) → List (List Char) → Prop where
  /-- The lines are put into another order. -/
  | permute {before after : List (List Char)} (perm : before.Perm after) : Edit names before after
  /-- A line that is there is written once more. -/
  | duplicate {line : List Char} {lines : List (List Char)} (member : line ∈ lines) :
    Edit names lines (line :: lines)
  /-- A comment line or a blank line is added. -/
  | comment {line : List Char} (lines : List (List Char)) (skipped : isSkipped line = true) :
    Edit names lines (line :: lines)
  /-- A data line about another property is added. -/
  | unused {line : List Char} {entry : Entry} (lines : List (List Char))
    (isEntry : entryOf? line = some entry) (other : entry.name ∉ names) :
    Edit names lines (line :: lines)
  /-- A data line is replaced by data lines about the same property whose intervals, which may
  overlap, together hold the same values.  Undone, this merges lines. -/
  | cut {line : List Char} {entry : Entry} {pieces : List (List Char)} {parts : List Interval}
    (lines : List (List Char)) (isEntry : entryOf? line = some entry)
    (arePieces : pieces.map entryOf? = parts.map fun part => some ⟨part, entry.name⟩)
    (covers_iff : ∀ code, Covers parts code ↔ code ∈ entry.interval) :
    Edit names (line :: lines) (pieces ++ lines)

/-- Every piece of a line that was cut has an entry about the same property. -/
theorem exists_part_of_mem_pieces
    (arePieces : pieces.map entryOf? = parts.map fun part => some ⟨part, entry.name⟩)
    (member : line ∈ pieces) : ∃ part ∈ parts, entryOf? line = some ⟨part, entry.name⟩ := by
  have isMapped : entryOf? line ∈ pieces.map entryOf? := List.mem_map_of_mem member
  rw [arePieces] at isMapped
  obtain ⟨part, isPart, same⟩ := List.mem_map.mp isMapped
  exact ⟨part, isPart, same.symm⟩

/-- The pieces of a line that was cut assign what its parts hold. -/
theorem assignedIn_pieces
    (arePieces : pieces.map entryOf? = parts.map fun part => some ⟨part, entry.name⟩) :
    AssignedIn pieces name code ↔ entry.name = name ∧ Covers parts code := by
  constructor
  · intro assigned
    obtain ⟨line, member, given, isEntry, named, within⟩ := assigned
    obtain ⟨part, isPart, partEntry⟩ := exists_part_of_mem_pieces arePieces member
    obtain rfl : ⟨part, entry.name⟩ = given := Option.some.inj (partEntry.symm.trans isEntry)
    exact ⟨named, part, isPart, within⟩
  · intro ⟨named, part, isPart, within⟩
    have isMapped : some ⟨part, entry.name⟩ ∈ pieces.map entryOf? := by
      rw [arePieces]
      exact List.mem_map_of_mem isPart
    obtain ⟨line, member, isEntry⟩ := List.mem_map.mp isMapped
    exact ⟨line, member, ⟨part, entry.name⟩, isEntry, named, within⟩

/-- A single edit keeps what the lines say about the named properties. -/
theorem Edit.saysSame (edit : Edit names before after) : SaysSame names before after := by
  cases edit with
  | permute perm =>
    constructor
    · simp only [perm.mem_iff]
    · intro name _ code
      simp only [AssignedIn, perm.mem_iff]
  | duplicate member =>
    constructor
    · rw [List.forall_mem_cons, and_iff_right_of_imp fun acceptable => acceptable _ member]
    · intro name _ code
      rw [assignedIn_cons, or_iff_right_of_imp (AssignedIn.of_mem member)]
  | comment _ skipped =>
    apply SaysSame.add (acceptable_iff_entryOf?.mpr (Or.inl skipped))
    intro name _ code assigned
    exact absurd assigned (not_assignedIn_of_isSkipped (List.forall_mem_singleton.mpr skipped))
  | @unused line entry _ isEntry other =>
    apply SaysSame.add (acceptable_iff_entryOf?.mpr (Or.inr ⟨entry, isEntry⟩))
    intro name member code assigned
    obtain ⟨found, isFound, named, _⟩ := assignedIn_singleton.mp assigned
    obtain rfl : entry = found := Option.some.inj (isEntry.symm.trans isFound)
    exact absurd (named ▸ member) other
  | @cut line entry pieces parts lines isEntry arePieces covers_iff =>
    rw [← List.singleton_append]
    refine SaysSame.replace ?_ ?_ ?_ lines
    · rw [List.forall_mem_singleton]
      exact acceptable_iff_entryOf?.mpr (Or.inr ⟨entry, isEntry⟩)
    · intro piece member
      obtain ⟨part, _, isEntry⟩ := exists_part_of_mem_pieces arePieces member
      exact acceptable_iff_entryOf?.mpr (Or.inr ⟨_, isEntry⟩)
    · intro name _ code
      rw [assignedIn_singleton, assignedIn_pieces arePieces, covers_iff]
      simp [isEntry]

/-- One list of lines can be turned into the other by edits and by undoing edits. -/
def Rewritten (names : List String) : List (List Char) → List (List Char) → Prop :=
  Relation.EqvGen (Edit names)

/-- An edit of the first lines can be made on lines in the middle, since lines may change places. -/
theorem Rewritten.of_edit_in_front
    (edit : Edit names (before ++ (front ++ back)) (after ++ (front ++ back))) :
    Rewritten names (front ++ (before ++ back)) (front ++ (after ++ back)) := by
  have forward : Edit names (front ++ (before ++ back)) (before ++ (front ++ back)) :=
    Edit.permute (List.perm_append_comm_assoc front before back)
  have backward : Edit names (after ++ (front ++ back)) (front ++ (after ++ back)) :=
    Edit.permute (List.perm_append_comm_assoc after front back)
  have edited : Rewritten names (before ++ (front ++ back)) (after ++ (front ++ back)) :=
    Relation.EqvGen.rel _ _ edit
  exact ((Relation.EqvGen.rel _ _ forward).trans _ _ _ edited).trans _ _ _
    (Relation.EqvGen.rel _ _ backward)

theorem Rewritten.saysSame (rewritten : Rewritten names before after) :
    SaysSame names before after := by
  induction rewritten with
  | rel before after edit => exact edit.saysSame
  | refl lines => exact SaysSame.refl names lines
  | symm before after _ ih => exact ih.symm
  | trans before middle after _ _ first second => exact first.trans second

end Property
end UnicodeIdentifier
