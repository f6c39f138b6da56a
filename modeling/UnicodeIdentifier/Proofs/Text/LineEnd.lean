import UnicodeIdentifier.Proofs.Text.Line
import UnicodeIdentifier.Proofs.Text.Trim

/-!
# Line ends

A text is a row of ended lines and a last line that nothing ends.  The lines of a text without carriage
returns do not depend on which of its line feeds have a carriage return put before them, nor on whether
the last line is ended.  A text that goes on behind an ended line has the lines of both parts.
-/

namespace UnicodeIdentifier
namespace Text

variable {text other front back line last rest block grown ending : List Char}

/-- Every text is a row of ended lines and what stands behind the last line feed. -/
theorem exists_unlines_append (text : List Char) : ∃ ended last, text = unlines ended ++ last ∧
    (∀ line ∈ ended, '\n' ∉ line) ∧ '\n' ∉ last := by
  induction text with
  | nil => exact ⟨[], [], rfl, List.forall_mem_nil _, List.not_mem_nil⟩
  | cons char rest ih =>
    obtain ⟨ended, last, rfl, endedNoFeed, lastNoFeed⟩ := ih
    by_cases isFeed : char = '\n'
    · exact ⟨[] :: ended, last, by simp [unlines, isFeed],
        List.forall_mem_cons.mpr ⟨List.not_mem_nil, endedNoFeed⟩, lastNoFeed⟩
    · -- the character belongs to the first line, which may be the last
      have noFeed {line : List Char} (lineNoFeed : '\n' ∉ line) : '\n' ∉ char :: line :=
        List.not_mem_cons_of_ne_of_not_mem (Ne.symm isFeed) lineNoFeed
      cases ended with
      | nil => exact ⟨[], char :: last, rfl, endedNoFeed, noFeed lastNoFeed⟩
      | cons first others =>
        obtain ⟨firstNoFeed, othersNoFeed⟩ := List.forall_mem_cons.mp endedNoFeed
        exact ⟨(char :: first) :: others, last, by simp [unlines],
          List.forall_mem_cons.mpr ⟨noFeed firstNoFeed, othersNoFeed⟩, lastNoFeed⟩

/-- What follows the text begins a line: the text is empty or its last line is ended. -/
def EndsLine (text : List Char) : Prop := ∀ last ∈ text.getLast?, last = '\n'

theorem endsLine_unlines (lines : List (List Char)) : EndsLine (unlines lines) := by
  intro char isLast
  rcases List.eq_nil_or_concat lines with rfl | ⟨others, line, rfl⟩
  · cases isLast
  · simpa [unlines, eq_comm] using isLast

theorem EndsLine.eq_nil (ends : EndsLine text) (noFeed : '\n' ∉ text) : text = [] := by
  rw [← List.getLast?_eq_none_iff, Option.eq_none_iff_forall_ne_some]
  intro char isLast
  have isFeed : char = '\n' := ends char isLast
  exact noFeed (isFeed ▸ List.mem_of_getLast? isLast)

theorem EndsLine.exists_unlines (ends : EndsLine text) :
    ∃ ended, text = unlines ended ∧ ∀ line ∈ ended, '\n' ∉ line := by
  obtain ⟨ended, last, rfl, endedNoFeed, lastNoFeed⟩ := exists_unlines_append text
  have lastEnds : EndsLine last := by
    intro char isLast
    apply ends
    rw [List.getLast?_append, isLast]
    rfl
  exact ⟨ended, by rw [lastEnds.eq_nil lastNoFeed, List.append_nil], endedNoFeed⟩

theorem EndsLine.lines_append (ends : EndsLine front) (back : List Char) :
    Text.lines (front ++ back) = Text.lines front ++ Text.lines back := by
  obtain ⟨ended, rfl, noFeed⟩ := ends.exists_unlines
  have isLines := lines_unlines_append noFeed []
  rw [List.append_nil, lines_nil, List.append_nil] at isLines
  rw [lines_unlines_append noFeed, isLines]

theorem exists_last_of_not_endsLine (unended : ¬ EndsLine text) : ∃ earlier last, last <:+ text ∧
    Text.lines text = earlier ++ [last] ∧ ∀ ending rest, '\n' ∉ ending →
      Text.lines (text ++ ending ++ '\n' :: rest) =
        earlier ++ dropReturn (last ++ ending) :: Text.lines rest := by
  obtain ⟨ended, last, rfl, endedNoFeed, lastNoFeed⟩ := exists_unlines_append text
  have nonempty : last ≠ [] := by
    intro nothing
    rw [nothing, List.append_nil] at unended
    exact unended (endsLine_unlines ended)
  refine ⟨ended.map dropReturn, last, List.suffix_append _ _, ?_, fun ending rest noFeed => ?_⟩
  · rw [lines_unlines_append endedNoFeed, lines_unended lastNoFeed nonempty]
  · rw [List.append_assoc, List.append_assoc, ← List.append_assoc last, lines_unlines_append endedNoFeed,
      lines_append_cons (List.not_mem_append lastNoFeed noFeed)]

/-- What stands before the first line feed, without a carriage return directly before it, or else the
whole text. -/
def firstLine (text : List Char) : List Char :=
  if '\n' ∈ text then dropReturn (text.takeWhile (· ≠ '\n')) else text

theorem firstLine_of_not_mem (noFeed : '\n' ∉ text) : firstLine text = text :=
  if_neg noFeed

theorem firstLine_append_cons (noFeed : '\n' ∉ line) (rest : List Char) :
    firstLine (line ++ '\n' :: rest) = dropReturn line := by
  have begins : ∀ first ∈ ('\n' :: rest).head?, first = '\n' := fun _ isFirst =>
    (Option.some.inj isFirst).symm
  have isLine : (line ++ '\n' :: rest).takeWhile (· ≠ '\n') = line :=
    (takeWhile_dropWhile_ne_eq_iff.mpr ⟨rfl, noFeed, begins⟩).1
  rw [firstLine, if_pos (List.mem_append_right line List.mem_cons_self), isLine]

theorem head?_lines (nonempty : text ≠ []) : (Text.lines text).head? = some (firstLine text) := by
  by_cases member : '\n' ∈ text
  · obtain ⟨line, rest, rfl, noFeed⟩ := List.eq_append_cons_of_mem member
    rw [lines_append_cons noFeed, firstLine_append_cons noFeed, List.head?_cons]
  · rw [lines_unended member nonempty, firstLine_of_not_mem member, List.head?_cons]

theorem getD_head?_lines (text : List Char) : (Text.lines text).head?.getD [] = firstLine text := by
  by_cases isEmpty : text = []
  · subst isEmpty
    rfl
  · rw [head?_lines isEmpty, Option.getD_some]

/-- Some of the line feeds of the first text have a carriage return before them in the second, which is
otherwise the same. -/
inductive Reended : List Char → List Char → Prop where
  | nil : Reended [] []
  /-- Any character, a line feed included, may be kept. -/
  | keep {text other : List Char} (char : Char) (rest : Reended text other) :
    Reended (char :: text) (char :: other)
  /-- A line feed may get a carriage return. -/
  | putReturn {text other : List Char} (rest : Reended text other) :
    Reended ('\n' :: text) ('\r' :: '\n' :: other)

namespace Reended

theorem refl (text : List Char) : Reended text text := by
  induction text with
  | nil => exact nil
  | cons char rest ih => exact keep char ih

theorem append (front : List Char) (reended : Reended text other) :
    Reended (front ++ text) (front ++ other) := by
  induction front with
  | nil => exact reended
  | cons char rest ih => exact keep char ih

/-- A carriage return that is put before a line feed belongs to the line's end. -/
theorem lines_append_eq (reended : Reended text other) (noReturn : '\r' ∉ front ++ text)
    (noFeed : '\n' ∉ front) : Text.lines (front ++ other) = Text.lines (front ++ text) := by
  induction reended generalizing front with
  | nil => rfl
  | @keep text other char rest ih =>
    rw [List.append_cons] at noReturn
    by_cases isFeed : char = '\n'
    · subst isFeed
      have laterNoReturn : '\r' ∉ text := fun member => noReturn (List.mem_append_right _ member)
      have later : Text.lines other = Text.lines text := @ih [] laterNoReturn List.not_mem_nil
      rw [lines_append_cons noFeed, lines_append_cons noFeed, later]
    · rw [List.append_cons front char other, List.append_cons front char text]
      exact ih noReturn (List.not_mem_append noFeed (mt List.mem_singleton.mp (Ne.symm isFeed)))
  | @putReturn text other rest ih =>
    rw [List.append_cons, List.mem_append, not_or] at noReturn
    have later : Text.lines other = Text.lines text := @ih [] noReturn.2 List.not_mem_nil
    have frontNoReturn : '\r' ∉ front := fun member => noReturn.1 (List.mem_append_left _ member)
    have withReturn : '\n' ∉ front ++ ['\r'] := List.not_mem_append noFeed (by decide)
    rw [List.append_cons front '\r', lines_append_cons withReturn, lines_append_cons noFeed,
      dropReturn_append_return, dropReturn_of_not_mem frontNoReturn, later]

theorem lines_eq (reended : Reended text other) (noReturn : '\r' ∉ text) :
    Text.lines other = Text.lines text :=
  @lines_append_eq text other [] reended noReturn List.not_mem_nil

end Reended

/-- The second text is the first with a carriage return before some of its line feeds; the last line of
the first, if a line feed does not end it, may have been given one before that. -/
inductive SameUpToEnds (text other : List Char) : Prop where
  | reended (reended : Reended text other)
  | ended (unended : text.getLast? ≠ some '\n') (reended : Reended (text ++ ['\n']) other)

/-- A line feed behind an unended last line adds no line. -/
theorem lines_append_feed (nonempty : text ≠ []) (unended : text.getLast? ≠ some '\n')
    (noReturn : '\r' ∉ text) : Text.lines (text ++ ['\n']) = Text.lines text := by
  have notEnded : ¬ EndsLine text := by
    intro ends
    obtain ⟨last, isLast⟩ := Option.ne_none_iff_exists'.mp (mt List.getLast?_eq_none_iff.mp nonempty)
    exact unended (ends last isLast ▸ isLast)
  obtain ⟨earlier, last, isSuffix, isLines, ended⟩ := exists_last_of_not_endsLine notEnded
  have lastNoReturn : '\r' ∉ last := fun member => noReturn (isSuffix.subset member)
  have withFeed := ended [] [] List.not_mem_nil
  rw [List.append_nil, List.append_nil, dropReturn_of_not_mem lastNoReturn, lines_nil] at withFeed
  rw [withFeed, isLines]

/-- Texts that differ in their line ends have the same lines, except that an empty text may have become
a single empty line. -/
theorem SameUpToEnds.lines_eq (same : SameUpToEnds text other) (noReturn : '\r' ∉ text) :
    Text.lines other = Text.lines text ∨ text = [] ∧ Text.lines other = [[]] := by
  cases same with
  | reended reended => exact Or.inl (reended.lines_eq noReturn)
  | ended unended reended =>
    have linesEnded := reended.lines_eq (List.not_mem_append noReturn (by decide))
    by_cases isEmpty : text = []
    · subst isEmpty
      exact Or.inr ⟨rfl, linesEnded⟩
    · exact Or.inl (linesEnded.trans (lines_append_feed isEmpty unended noReturn))

theorem SameUpToEnds.firstLine_eq (same : SameUpToEnds text other) (noReturn : '\r' ∉ text) :
    firstLine other = firstLine text := by
  rw [← getD_head?_lines, ← getD_head?_lines]
  rcases same.lines_eq noReturn with linesEq | ⟨rfl, linesEq⟩
  · rw [linesEq]
  · rw [linesEq]
    rfl

/-- The third text is the first with the block behind it on lines of its own.  If the last line of the
first is unended, it is ended in between. -/
inductive Grown (text block : List Char) : List Char → Prop where
  | behind (ends : EndsLine text) : Grown text block (text ++ block)
  | behindFeed (unended : ¬ EndsLine text) : Grown text block (text ++ '\n' :: block)
  | behindReturn (unended : ¬ EndsLine text) : Grown text block (text ++ '\r' :: '\n' :: block)

namespace Grown

/-- The lines of the text come first, up to blanks at the end of the last of them, and then those of the
block. -/
theorem exists_lines_eq (grows : Grown text block grown) : ∃ kept,
    Text.lines grown = kept ++ Text.lines block ∧ kept.map trimEnd = (Text.lines text).map trimEnd := by
  have ended {ending : List Char} (unended : ¬ EndsLine text) (blank : IsBlankRun ending)
      (noFeed : '\n' ∉ ending) : ∃ kept,
      Text.lines (text ++ ending ++ '\n' :: block) = kept ++ Text.lines block ∧
        kept.map trimEnd = (Text.lines text).map trimEnd := by
    obtain ⟨earlier, last, _, isLines, endedLines⟩ := exists_last_of_not_endsLine unended
    refine ⟨earlier ++ [dropReturn (last ++ ending)], ?_, ?_⟩
    · rw [endedLines ending block noFeed, ← List.append_cons]
    · rw [isLines, List.map_append, List.map_append, List.map_singleton, List.map_singleton,
        trimEnd_dropReturn, trimEnd_append_blank blank]
  cases grows with
  | behind ends => exact ⟨Text.lines text, ends.lines_append block, rfl⟩
  | behindFeed unended =>
    have isLines := ended unended isBlankRun_nil List.not_mem_nil
    rwa [List.append_nil] at isLines
  | behindReturn unended =>
    have isLines := @ended ['\r'] unended (by decide) (by decide)
    rwa [← List.append_cons] at isLines

theorem exists_append (grows : Grown text block grown) : ∃ more, grown = text ++ more := by
  cases grows with
  | behind ends => exact ⟨_, rfl⟩
  | behindFeed unended => exact ⟨_, rfl⟩
  | behindReturn unended => exact ⟨_, rfl⟩

theorem firstLine_eq (grows : Grown text block grown) (nonempty : firstLine text ≠ [])
    (noReturn : (firstLine text).getLast? ≠ some '\r') : firstLine grown = firstLine text := by
  by_cases member : '\n' ∈ text
  · obtain ⟨line, rest, rfl, noFeed⟩ := List.eq_append_cons_of_mem member
    obtain ⟨more, rfl⟩ := grows.exists_append
    rw [List.append_assoc, List.cons_append, firstLine_append_cons noFeed, firstLine_append_cons noFeed]
  · rw [firstLine_of_not_mem member] at nonempty noReturn ⊢
    cases grows with
    | behind ends => exact absurd (ends.eq_nil member) nonempty
    | behindFeed unended => rw [firstLine_append_cons member, dropReturn_eq_self noReturn]
    | behindReturn unended =>
      have withReturn : '\n' ∉ text ++ ['\r'] := List.not_mem_append member (by decide)
      rw [List.append_cons text '\r', firstLine_append_cons withReturn, dropReturn_append_return]

end Grown

end Text
end UnicodeIdentifier
