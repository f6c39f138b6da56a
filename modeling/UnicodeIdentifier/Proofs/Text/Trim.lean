import UnicodeIdentifier.Proofs.Text.Line

/-!
# Blanks at the ends of a text

Every text is made of a run of blanks, a core that neither begins nor ends with a blank, and another
run of blanks.  The core is unique, and trimming finds it.  What stands before the first occurrence
of a character that is not blank may be trimmed before or after it is taken.
-/

namespace UnicodeIdentifier
namespace Text

variable {stop : Char} {chars core front back : List Char}

/-- Every character is blank. -/
def IsBlankRun (chars : List Char) : Prop := ∀ char ∈ chars, isBlank char = true

instance (chars : List Char) : Decidable (IsBlankRun chars) :=
  List.decidableBAll (fun char => isBlank char = true) chars

@[simp]
theorem isBlankRun_nil : IsBlankRun [] := fun _ member => absurd member List.not_mem_nil

@[simp]
theorem isBlankRun_append : IsBlankRun (front ++ back) ↔ IsBlankRun front ∧ IsBlankRun back :=
  List.forall_mem_append

@[simp]
theorem isBlankRun_reverse : IsBlankRun chars.reverse ↔ IsBlankRun chars := by
  simp only [IsBlankRun, List.mem_reverse]

theorem not_mem_of_isBlankRun (blank : IsBlankRun chars) (noBlank : isBlank stop = false) :
    stop ∉ chars := by
  intro member
  have isBlank := blank stop member
  rw [noBlank] at isBlank
  exact Bool.false_ne_true isBlank

/-- The text neither begins nor ends with a blank. -/
structure IsTrimmed (chars : List Char) : Prop where
  begins : ∀ first ∈ chars.head?, isBlank first = false
  ends : ∀ last ∈ chars.getLast?, isBlank last = false

theorem isTrimmed_of_noBlank (noBlank : ∀ char ∈ chars, isBlank char = false) : IsTrimmed chars :=
  ⟨fun first isFirst => noBlank first (List.mem_of_head? isFirst),
    fun last isLast => noBlank last (List.mem_of_getLast? isLast)⟩

/-- Runs of blanks stand around the core, which neither begins nor ends with a blank. -/
def Strips (chars core : List Char) : Prop :=
  ∃ front back, chars = front ++ core ++ back ∧ IsBlankRun front ∧ IsBlankRun back ∧ IsTrimmed core

theorem Strips.isTrimmed (strips : Strips chars core) : IsTrimmed core := by
  obtain ⟨_, _, _, _, _, trimmed⟩ := strips
  exact trimmed

theorem trimStart_eq_iff : trimStart chars = core ↔
    ∃ front, chars = front ++ core ∧ IsBlankRun front ∧
      ∀ first ∈ core.head?, isBlank first = false := by
  constructor
  · intro trimmed
    exact ⟨chars.takeWhile isBlank, takeWhile_dropWhile_eq_iff.mp ⟨rfl, trimmed⟩⟩
  · intro ⟨front, cut⟩
    exact (takeWhile_dropWhile_eq_iff.mpr cut).2

theorem trimEnd_eq_iff : trimEnd chars = core ↔
    ∃ back, chars = core ++ back ∧ IsBlankRun back ∧
      ∀ last ∈ core.getLast?, isBlank last = false := by
  have reversed : trimEnd chars = core ↔ trimStart chars.reverse = core.reverse := by
    rw [trimEnd, trimStart, List.reverse_eq_iff]
  rw [reversed, trimStart_eq_iff, List.head?_reverse]
  constructor
  · intro ⟨front, reverse_eq, blank, ends⟩
    have chars_eq : chars = core ++ front.reverse := by
      rw [← List.reverse_inj, reverse_eq, List.reverse_append, List.reverse_reverse]
    exact ⟨front.reverse, chars_eq, isBlankRun_reverse.mpr blank, ends⟩
  · intro ⟨back, chars_eq, blank, ends⟩
    have reverse_eq : chars.reverse = back.reverse ++ core.reverse := by
      rw [chars_eq, List.reverse_append]
    exact ⟨back.reverse, reverse_eq, isBlankRun_reverse.mpr blank, ends⟩

theorem trimEnd_append_blank (blank : IsBlankRun back) (chars : List Char) :
    trimEnd (chars ++ back) = trimEnd chars := by
  obtain ⟨blanks, chars_eq, blanksBlank, ends⟩ := trimEnd_eq_iff.mp (Eq.refl (trimEnd chars))
  refine trimEnd_eq_iff.mpr ⟨blanks ++ back, ?_, isBlankRun_append.mpr ⟨blanksBlank, blank⟩, ends⟩
  rw [← List.append_assoc, ← chars_eq]

/-- A carriage return that is taken for a part of a line's end is blank. -/
@[simp]
theorem trimEnd_dropReturn (line : List Char) : trimEnd (dropReturn line) = trimEnd line := by
  rw [dropReturn]
  split
  · rename_i isLast
    obtain ⟨core, rfl⟩ := List.getLast?_eq_some_iff.mp isLast
    rw [List.dropLast_concat, trimEnd_append_blank (by decide)]
  · rfl

/-- Trimming finds the core of a text. -/
theorem trim_eq_iff : trim chars = core ↔ Strips chars core := by
  constructor
  · intro trimmed
    obtain ⟨front, chars_eq, blankFront, begins⟩ := trimStart_eq_iff.mp (Eq.refl (trimStart chars))
    obtain ⟨back, middle_eq, blankBack, ends⟩ := trimEnd_eq_iff.mp trimmed
    refine ⟨front, back, ?_, blankFront, blankBack, fun first isFirst => begins first ?_, ends⟩
    · rw [List.append_assoc, ← middle_eq]
      exact chars_eq
    · rw [middle_eq, List.head?_append, isFirst]
      rfl
  · intro ⟨front, back, chars_eq, blankFront, blankBack, trimmed⟩
    rw [List.append_assoc] at chars_eq
    cases core with
    | nil =>
      have allBlank : IsBlankRun chars := by
        rw [chars_eq]
        exact isBlankRun_append.mpr ⟨blankFront, blankBack⟩
      have nothing : trimStart chars = [] :=
        trimStart_eq_iff.mpr ⟨chars, (List.append_nil chars).symm, allBlank, fun _ => nofun⟩
      rw [trim, nothing]
      rfl
    | cons first rest =>
      have middle_eq : trimStart chars = (first :: rest) ++ back :=
        trimStart_eq_iff.mpr ⟨front, chars_eq, blankFront, trimmed.begins⟩
      exact trimEnd_eq_iff.mpr ⟨back, middle_eq, blankBack, trimmed.ends⟩

theorem Strips.blank_append (strips : Strips chars core) (blank : IsBlankRun front) :
    Strips (front ++ chars) core := by
  obtain ⟨before, after, rfl, blankBefore, blankAfter, trimmed⟩ := strips
  refine ⟨front ++ before, after, ?_, isBlankRun_append.mpr ⟨blank, blankBefore⟩, blankAfter, trimmed⟩
  simp only [List.append_assoc]

theorem Strips.append_blank (strips : Strips chars core) (blank : IsBlankRun back) :
    Strips (chars ++ back) core := by
  obtain ⟨before, after, rfl, blankBefore, blankAfter, trimmed⟩ := strips
  refine ⟨before, after ++ back, ?_, blankBefore, isBlankRun_append.mpr ⟨blankAfter, blank⟩, trimmed⟩
  simp only [List.append_assoc]

theorem trim_blank_append (blank : IsBlankRun front) (chars : List Char) :
    trim (front ++ chars) = trim chars :=
  trim_eq_iff.mpr ((trim_eq_iff.mp rfl).blank_append blank)

theorem trim_append_blank (blank : IsBlankRun back) (chars : List Char) :
    trim (chars ++ back) = trim chars :=
  trim_eq_iff.mpr ((trim_eq_iff.mp rfl).append_blank blank)

theorem takeWhile_isBlank (blank : IsBlankRun front) (trimmed : IsTrimmed core) (nonempty : core ≠ [])
    (back : List Char) : (front ++ core ++ back).takeWhile isBlank = front := by
  obtain ⟨first, rest, rfl⟩ := List.exists_cons_of_ne_nil nonempty
  exact (takeWhile_dropWhile_eq_iff.mpr
    ⟨List.append_assoc front (first :: rest) back, blank, trimmed.begins⟩).1

theorem exists_takeWhile_append (core : List Char) (blank : IsBlankRun back) (keep : Char → Bool) :
    ∃ rest, (core ++ back).takeWhile keep = core.takeWhile keep ++ rest ∧ IsBlankRun rest := by
  rw [List.takeWhile_append]
  split
  · rename_i whole
    have core_eq : core.takeWhile keep = core := (List.takeWhile_prefix keep).eq_of_length whole
    have restBlank : IsBlankRun (back.takeWhile keep) := fun char member =>
      blank char ((List.takeWhile_prefix keep).subset member)
    exact ⟨back.takeWhile keep, by rw [core_eq], restBlank⟩
  · exact ⟨[], (List.append_nil _).symm, isBlankRun_nil⟩

/-- What stands before a stop has the same core, whether it is taken from a text or from the core of
the text. -/
theorem Strips.takeWhile {name : List Char} (strips : Strips chars core)
    (noBlank : isBlank stop = false) (isName : trimEnd (core.takeWhile (· ≠ stop)) = name) :
    Strips (chars.takeWhile (· ≠ stop)) name := by
  obtain ⟨front, back, rfl, blankFront, blankBack, trimmed⟩ := strips
  obtain ⟨blanks, taken_eq, blank, ends⟩ := trimEnd_eq_iff.mp isName
  obtain ⟨rest, rest_eq, blankRest⟩ := exists_takeWhile_append core blankBack (· ≠ stop)
  have kept : ∀ char ∈ front, decide (char ≠ stop) = true :=
    forall_decide_ne_iff.mpr (not_mem_of_isBlankRun blankFront noBlank)
  refine ⟨front, blanks ++ rest, ?_, blankFront, isBlankRun_append.mpr ⟨blank, blankRest⟩,
    fun first isFirst => trimmed.begins first ?_, ends⟩
  · rw [List.append_assoc, List.takeWhile_append_of_pos kept, rest_eq, taken_eq]
    simp only [List.append_assoc]
  · -- the name begins where the core begins
    have core_eq : core = name ++ (blanks ++ core.dropWhile (· ≠ stop)) := by
      rw [← List.append_assoc, ← taken_eq, List.takeWhile_append_dropWhile]
    rw [core_eq, List.head?_append, isFirst]
    rfl

theorem trimEnd_takeWhile_trim (chars : List Char) (noBlank : isBlank stop = false) :
    trimEnd ((trim chars).takeWhile (· ≠ stop)) = trim (chars.takeWhile (· ≠ stop)) := by
  have strips : Strips chars (trim chars) := trim_eq_iff.mp rfl
  exact (trim_eq_iff.mpr (strips.takeWhile noBlank rfl)).symm

end Text
end UnicodeIdentifier
