import UnicodeIdentifier.Proofs.Property.File
import UnicodeIdentifier.Proofs.Property.Layout

/-!
# Comments and blanks in a line

A line is cut at its semicolon before it is cut at its number sign, so a comment may hold the
semicolon that is found first.  Then a number sign stands in what should be numerals, and the line is
refused as it is without the comment.  Everywhere else comments and blanks are left out before the
pieces of a line are read.
-/

namespace UnicodeIdentifier
namespace Property

variable {line front back rest after name blanks : List Char}

theorem IsNameOf.append_comment (named : IsNameOf rest name) (comment : List Char) :
    IsNameOf (rest ++ '#' :: comment) name := by
  obtain ⟨text, earlier, rfl, absent, begins, strips⟩ := named
  refine ⟨text, earlier ++ '#' :: comment, List.append_assoc _ _ _, absent, ?_, strips⟩
  cases earlier with
  | nil => exact fun first isFirst => (Option.some.inj isFirst).symm
  | cons sign others => exact begins

theorem IsNameOf.blank_append (named : IsNameOf rest name) (blank : Text.IsBlankRun blanks) :
    IsNameOf (blanks ++ rest) name := by
  obtain ⟨text, comment, rfl, absent, begins, strips⟩ := named
  have noSign : '#' ∉ blanks ++ text :=
    List.not_mem_append (Text.not_mem_of_isBlankRun blank (by decide)) absent
  exact ⟨blanks ++ text, comment, (List.append_assoc _ _ _).symm, noSign, begins,
    strips.blank_append blank⟩

theorem IsNameOf.append_blank (named : IsNameOf rest name) (blank : Text.IsBlankRun blanks) :
    IsNameOf (rest ++ blanks) name := by
  obtain ⟨text, comment, rfl, absent, begins, strips⟩ := named
  cases comment with
  | nil =>
    have noSign : '#' ∉ text ++ blanks :=
      List.not_mem_append absent (Text.not_mem_of_isBlankRun blank (by decide))
    exact ⟨text ++ blanks, [], by simp, noSign, begins, strips.append_blank blank⟩
  | cons sign others => exact ⟨text, sign :: others ++ blanks, by simp, absent, begins, strips⟩

theorem nameOf_eq_nameOf (same : ∀ name, IsNameOf rest name → IsNameOf after name) :
    Entry.nameOf after = Entry.nameOf rest :=
  nameOf_eq_iff.mpr (same _ (nameOf_eq_iff.mp rfl))

namespace Entry

theorem read?_eq_none_of_not_mem (absent : ';' ∉ line) : read? line = none := by
  rw [read?, Text.splitOnce?_eq_none_iff.mpr absent]
  rfl

/-- What is read of a line depends only on the core of what stands before its first semicolon and on
the name in what follows it. -/
theorem read?_congr (absent : ';' ∉ front) (otherAbsent : ';' ∉ back)
    (core_eq : Text.trim front = Text.trim back) (name_eq : nameOf rest = nameOf after) :
    read? (front ++ ';' :: rest) = read? (back ++ ';' :: after) := by
  rw [read?, read?, Text.splitOnce?_append_cons absent, Text.splitOnce?_append_cons otherAbsent]
  simp only [Option.bind_eq_bind, Option.bind_some, core_eq, name_eq]

/-- A line with a number sign before its first semicolon is refused. -/
theorem read?_eq_none_of_comment (absent : ';' ∉ line) (comment : List Char) :
    read? (line ++ '#' :: comment) = none := by
  rw [Option.eq_none_iff_forall_ne_some]
  intro entry found
  obtain ⟨layout, line_eq, states⟩ := Layout.read?_eq_some_iff.mp found
  rcases Text.mem_or_mem_of_append_cons_eq (by decide) line_eq with inLine | inHead
  · exact absent inLine
  · exact states.numberSign_not_mem_head inHead

/-- A comment behind a line has no part in what is read, wherever the semicolons are. -/
theorem read?_append_comment (line comment : List Char) :
    read? (line ++ '#' :: comment) = read? line := by
  by_cases member : ';' ∈ line
  · obtain ⟨front, rest, rfl, absent⟩ := List.eq_append_cons_of_mem member
    rw [List.append_assoc, List.cons_append]
    exact read?_congr absent absent rfl (nameOf_eq_nameOf fun _ named => named.append_comment comment)
  · rw [read?_eq_none_of_comment member, read?_eq_none_of_not_mem member]

theorem read?_blank_append (blank : Text.IsBlankRun blanks) (line : List Char) :
    read? (blanks ++ line) = read? line := by
  have noSemicolon : ';' ∉ blanks := Text.not_mem_of_isBlankRun blank (by decide)
  by_cases member : ';' ∈ line
  · obtain ⟨front, rest, rfl, absent⟩ := List.eq_append_cons_of_mem member
    rw [← List.append_assoc]
    exact read?_congr (List.not_mem_append noSemicolon absent) absent
      (Text.trim_blank_append blank front) rfl
  · rw [read?_eq_none_of_not_mem member,
      read?_eq_none_of_not_mem (List.not_mem_append noSemicolon member)]

theorem read?_append_blank (blank : Text.IsBlankRun blanks) (line : List Char) :
    read? (line ++ blanks) = read? line := by
  have noSemicolon : ';' ∉ blanks := Text.not_mem_of_isBlankRun blank (by decide)
  by_cases member : ';' ∈ line
  · obtain ⟨front, rest, rfl, absent⟩ := List.eq_append_cons_of_mem member
    rw [List.append_assoc, List.cons_append]
    exact read?_congr absent absent rfl (nameOf_eq_nameOf fun _ named => named.append_blank blank)
  · rw [read?_eq_none_of_not_mem member,
      read?_eq_none_of_not_mem (List.not_mem_append member noSemicolon)]

end Entry

/-- What is read of a line does not change with a comment behind the line, nor with blanks before the
line, on either side of its first semicolon, or behind the line. -/
theorem read?_ignores_comment_and_blanks :
    (∀ line comment : List Char, Entry.read? (line ++ '#' :: comment) = Entry.read? line) ∧
    (∀ line blanks : List Char, Text.IsBlankRun blanks →
      Entry.read? (blanks ++ line) = Entry.read? line ∧
      Entry.read? (line ++ blanks) = Entry.read? line) ∧
    ∀ front rest blanks : List Char, ';' ∉ front → Text.IsBlankRun blanks →
      Entry.read? (front ++ blanks ++ ';' :: rest) = Entry.read? (front ++ ';' :: rest) ∧
      Entry.read? (front ++ ';' :: (blanks ++ rest)) = Entry.read? (front ++ ';' :: rest) := by
  refine ⟨Entry.read?_append_comment, fun line blanks blank => ?_,
    fun front rest blanks absent blank => ⟨?_, ?_⟩⟩
  · exact ⟨Entry.read?_blank_append blank line, Entry.read?_append_blank blank line⟩
  · have noSemicolon : ';' ∉ blanks := Text.not_mem_of_isBlankRun blank (by decide)
    exact Entry.read?_congr (List.not_mem_append absent noSemicolon) absent
      (Text.trim_append_blank blank front) rfl
  · exact Entry.read?_congr absent absent rfl
      (nameOf_eq_nameOf fun _ named => named.blank_append blank)

/-- Blanks that are not spaces. -/
def rareBlanks : List Char := "\u3000\u2028\r".toList

/-- What stands before the semicolon of the ornate line. -/
def ornateFront : List Char := "\u00a0+4A..05a\t".toList

/-- What stands behind it. -/
def ornateRest : List Char := " Name # 1; 2..3".toList

/-- A second comment with a semicolon, blanks at the four places, and a line whose only semicolon stands
in its comment. -/
theorem read?_ignores_comment_and_blanks_ornate :
    Entry.read? (ornateLine ++ '#' :: ornateRest) = some ornateEntry ∧
      Entry.read? (rareBlanks ++ ornateLine) = some ornateEntry ∧
      Entry.read? (ornateLine ++ rareBlanks) = some ornateEntry ∧
      Entry.read? (ornateFront ++ rareBlanks ++ ';' :: ornateRest) = some ornateEntry ∧
      Entry.read? (ornateFront ++ ';' :: (rareBlanks ++ ornateRest)) = some ornateEntry ∧
      Entry.read? (ornateFront ++ '#' :: ';' :: ornateRest) = none := by
  have isRead : Entry.read? ornateLine = some ornateEntry := by decide
  have isCut : ornateFront ++ ';' :: ornateRest = ornateLine := by decide
  obtain ⟨comment, ends, middle⟩ := read?_ignores_comment_and_blanks
  obtain ⟨before, behind⟩ := ends ornateLine rareBlanks (by decide)
  obtain ⟨left, right⟩ := middle ornateFront ornateRest rareBlanks (by decide) (by decide)
  rw [isCut] at left right
  exact ⟨(comment _ _).trans isRead, before.trans isRead, behind.trans isRead, left.trans isRead,
    right.trans isRead, (comment _ _).trans (by decide)⟩

end Property
end UnicodeIdentifier
