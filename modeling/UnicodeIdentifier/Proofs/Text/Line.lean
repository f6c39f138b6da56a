import UnicodeIdentifier.Text.Blank
import UnicodeIdentifier.Text.Line

/-!
# Cutting a text that was put together

A text put together from lines, or from two pieces with a separator between them, falls apart into
these again, provided that the pieces do not hold what the text is cut at.  A cut at the first
separator is described by the two pieces that it leaves.
-/

namespace UnicodeIdentifier
namespace Text

variable {char separator : Char} {chars front back before line rest : List Char}
  {lines : List (List Char)}

/-- The text of some lines, each ended by a line feed. -/
def unlines (lines : List (List Char)) : List Char := lines.flatMap (· ++ ['\n'])

/-- A line that is its own text: it holds no line feed and does not end with a carriage return. -/
def IsPlain (line : List Char) : Prop := '\n' ∉ line ∧ line.getLast? ≠ some '\r'

@[simp]
theorem lines_nil : Text.lines [] = [] := rfl

theorem lines_append_cons (noFeed : '\n' ∉ line) :
    Text.lines (line ++ '\n' :: rest) = dropReturn line :: Text.lines rest := by
  have pieces : (line ++ '\n' :: rest).splitOn '\n' = line :: rest.splitOn '\n' :=
    List.splitOn_append_cons_self_of_not_mem noFeed rest
  have more : rest.splitOn '\n' ≠ [] := List.splitOn_ne_nil '\n' rest
  obtain ⟨next, others, isCons⟩ := List.exists_cons_of_ne_nil more
  simp only [Text.lines, pieces, isCons, List.dropLast_cons_cons, List.map_cons, List.cons_append,
    List.getLast?_cons_cons]

theorem dropReturn_eq_self (noReturn : line.getLast? ≠ some '\r') : dropReturn line = line := by
  rw [dropReturn, if_neg noReturn]

theorem dropReturn_of_not_mem (noReturn : '\r' ∉ line) : dropReturn line = line :=
  dropReturn_eq_self fun isLast => noReturn (List.mem_of_getLast? isLast)

@[simp]
theorem dropReturn_append_return (line : List Char) : dropReturn (line ++ ['\r']) = line := by
  simp [dropReturn]

theorem lines_unended (noFeed : '\n' ∉ line) (nonempty : line ≠ []) : Text.lines line = [line] := by
  obtain ⟨first, others, rfl⟩ := List.exists_cons_of_ne_nil nonempty
  simp [Text.lines, List.splitOn_eq_singleton noFeed]

theorem lines_unlines_append (noFeed : ∀ line ∈ lines, '\n' ∉ line) (rest : List Char) :
    Text.lines (unlines lines ++ rest) = lines.map dropReturn ++ Text.lines rest := by
  induction lines with
  | nil => rfl
  | cons line others ih =>
    obtain ⟨lineNoFeed, othersNoFeed⟩ := List.forall_mem_cons.mp noFeed
    have text_eq : unlines (line :: others) ++ rest = line ++ '\n' :: (unlines others ++ rest) := by
      simp [unlines]
    rw [text_eq, lines_append_cons lineNoFeed, ih othersNoFeed, List.map_cons, List.cons_append]

/-- Plain lines are read back from their text. -/
theorem lines_unlines (plain : ∀ line ∈ lines, IsPlain line) : Text.lines (unlines lines) = lines := by
  have unchanged : lines.map dropReturn = lines.map id :=
    List.map_congr_left fun line member => dropReturn_eq_self (plain line member).2
  have isLines := lines_unlines_append (fun line member => (plain line member).1) []
  rwa [unchanged, List.map_id, lines_nil, List.append_nil, List.append_nil] at isLines

/-- Neither of the characters that end a line occurs. -/
def NoLineEnd (chars : List Char) : Prop := ∀ char ∈ chars, char ≠ '\n' ∧ char ≠ '\r'

instance (chars : List Char) : Decidable (NoLineEnd chars) :=
  List.decidableBAll (fun char => char ≠ '\n' ∧ char ≠ '\r') chars

@[simp]
theorem noLineEnd_nil : NoLineEnd [] := nofun

@[simp]
theorem noLineEnd_cons {char : Char} :
    NoLineEnd (char :: chars) ↔ (char ≠ '\n' ∧ char ≠ '\r') ∧ NoLineEnd chars :=
  List.forall_mem_cons

@[simp]
theorem noLineEnd_append : NoLineEnd (front ++ back) ↔ NoLineEnd front ∧ NoLineEnd back :=
  List.forall_mem_append

theorem noLineEnd_of_noBlank (noBlank : ∀ char ∈ chars, isBlank char = false) : NoLineEnd chars := by
  intro char member
  constructor
  · intro same
    exact absurd (noBlank char member) (by rw [same]; decide)
  · intro same
    exact absurd (noBlank char member) (by rw [same]; decide)

theorem NoLineEnd.isPlain (noEnd : NoLineEnd line) : IsPlain line := by
  constructor
  · intro member
    exact (noEnd _ member).1 rfl
  · intro isLast
    exact (noEnd _ (List.mem_of_getLast? isLast)).2 rfl

/-- A text that is put together from lines. -/
def ofLines (lines : List String) : String := String.ofList (unlines (lines.map String.toList))

theorem lines_ofLines {lines : List String} (plain : ∀ line ∈ lines, IsPlain line.toList) :
    Text.lines (ofLines lines).toList = lines.map String.toList := by
  rw [ofLines, String.toList_ofList]
  apply lines_unlines
  intro chars member
  obtain ⟨line, isLine, rfl⟩ := List.mem_map.mp member
  exact plain line isLine

theorem takeWhile_dropWhile_eq_iff {keep : Char → Bool} :
    chars.takeWhile keep = front ∧ chars.dropWhile keep = back ↔
      chars = front ++ back ∧ (∀ char ∈ front, keep char = true) ∧
        ∀ first ∈ back.head?, keep first = false := by
  constructor
  · intro ⟨front_eq, back_eq⟩
    rw [← front_eq, ← back_eq]
    refine ⟨List.takeWhile_append_dropWhile.symm, fun char member => ?_, fun first isFirst => ?_⟩
    · exact List.all_eq_true.mp List.all_takeWhile char member
    · have stops := List.head?_dropWhile_not keep chars
      rwa [isFirst] at stops
  · intro ⟨chars_eq, kept, stops⟩
    rw [chars_eq, List.takeWhile_append_of_pos kept, List.dropWhile_append_of_pos kept]
    cases back with
    | nil => simp
    | cons first rest => simp [stops first rfl]

theorem forall_decide_ne_iff :
    (∀ char ∈ front, decide (char ≠ separator) = true) ↔ separator ∉ front := by
  simp only [decide_eq_true_eq]
  constructor
  · intro others member
    exact others separator member rfl
  · intro absent char member same
    exact absent (same ▸ member)

theorem takeWhile_dropWhile_ne_eq_iff :
    chars.takeWhile (· ≠ separator) = front ∧ chars.dropWhile (· ≠ separator) = back ↔
      chars = front ++ back ∧ separator ∉ front ∧ ∀ first ∈ back.head?, first = separator := by
  rw [takeWhile_dropWhile_eq_iff, forall_decide_ne_iff]
  simp only [decide_eq_false_iff_not, Decidable.not_not]

/-- What stands around the first separator is found. -/
theorem splitOnce?_eq_some_iff : splitOnce? separator chars = some (front, back) ↔
    chars = front ++ separator :: back ∧ separator ∉ front := by
  constructor
  · intro found
    rw [splitOnce?] at found
    split at found
    · cases found
    · rename_i first after isCons
      cases found
      obtain ⟨chars_eq, absent, begins⟩ := takeWhile_dropWhile_ne_eq_iff.mp ⟨rfl, isCons⟩
      exact ⟨begins first rfl ▸ chars_eq, absent⟩
  · intro ⟨chars_eq, absent⟩
    have begins : ∀ first ∈ (separator :: back).head?, first = separator := fun _ isFirst =>
      (Option.some.inj isFirst).symm
    obtain ⟨front_eq, back_eq⟩ := takeWhile_dropWhile_ne_eq_iff.mpr ⟨chars_eq, absent, begins⟩
    simp only [splitOnce?, front_eq, back_eq]

theorem splitOnce?_append_cons (absent : separator ∉ front) :
    splitOnce? separator (front ++ separator :: back) = some (front, back) :=
  splitOnce?_eq_some_iff.mpr ⟨rfl, absent⟩

theorem splitOnce?_eq_none_iff : splitOnce? separator chars = none ↔ separator ∉ chars := by
  rw [Option.eq_none_iff_forall_ne_some]
  constructor
  · intro uncut member
    obtain ⟨front, back, chars_eq, absent⟩ := List.eq_append_cons_of_mem member
    exact uncut (front, back) (splitOnce?_eq_some_iff.mpr ⟨chars_eq, absent⟩)
  · intro absent (front, back) found
    apply absent
    rw [(splitOnce?_eq_some_iff.mp found).1]
    exact List.mem_append_right front List.mem_cons_self

/-- Of two cuts of a text at different characters, one lies behind the other. -/
theorem mem_or_mem_of_append_cons_eq (different : char ≠ separator)
    (same : front ++ char :: back = line ++ separator :: rest) : char ∈ line ∨ separator ∈ front := by
  rcases List.append_eq_append_iff.mp same with ⟨between, line_eq, back_eq⟩ | ⟨between, front_eq, rest_eq⟩
  · cases between with
    | nil => exact absurd (List.cons.inj back_eq).1 different
    | cons first others =>
      obtain rfl := (List.cons.inj back_eq).1
      exact Or.inl (line_eq ▸ List.mem_append_right front List.mem_cons_self)
  · cases between with
    | nil => exact absurd (List.cons.inj rest_eq).1.symm different
    | cons first others =>
      obtain rfl := (List.cons.inj rest_eq).1
      exact Or.inr (front_eq ▸ List.mem_append_right line List.mem_cons_self)

theorem append_cons_inj (absent : separator ∉ front) (otherAbsent : separator ∉ line)
    (same : front ++ separator :: back = line ++ separator :: rest) : front = line ∧ back = rest := by
  have cut : splitOnce? separator (front ++ separator :: back) = some (front, back) :=
    splitOnce?_append_cons absent
  rw [same, splitOnce?_append_cons otherAbsent, Option.some_inj, Prod.mk.injEq] at cut
  exact ⟨cut.1.symm, cut.2.symm⟩

theorem splitDotsOnto_append (absent : '.' ∉ front) :
    splitDotsOnto before (front ++ '.' :: '.' :: back) = some (before.reverse ++ front, back) := by
  induction front generalizing before with
  | nil => simp [splitDotsOnto]
  | cons char front ih =>
    obtain ⟨noDot, rest⟩ := not_or.mp (mt List.mem_cons.mpr absent)
    rw [List.cons_append, splitDotsOnto]
    · simp [ih rest]
    · intro after isDot _
      exact noDot isDot.symm

theorem splitDots?_append (absent : '.' ∉ front) :
    splitDots? (front ++ '.' :: '.' :: back) = some (front, back) := by
  rw [splitDots?, splitDotsOnto_append absent, List.reverse_nil, List.nil_append]

theorem eq_append_of_splitDotsOnto (found : splitDotsOnto before chars = some (front, back)) :
    before.reverse ++ chars = front ++ '.' :: '.' :: back := by
  fun_induction splitDotsOnto before chars with
  | case1 before after =>
    cases found
    rfl
  | case2 before char rest _ ih =>
    rw [← ih found, List.reverse_cons, List.append_assoc]
    rfl
  | case3 before => cases found

theorem eq_append_of_splitDots? (found : splitDots? chars = some (front, back)) :
    chars = front ++ '.' :: '.' :: back :=
  eq_append_of_splitDotsOnto found

theorem splitDots?_eq_none (absent : '.' ∉ chars) : splitDots? chars = none := by
  rw [Option.eq_none_iff_forall_ne_some]
  intro (front, back) found
  apply absent
  rw [eq_append_of_splitDots? found]
  exact List.mem_append_right front List.mem_cons_self

/-- Items are found in the text of all of them if each is found in any text that begins with it and
what follows the last one begins with none. -/
theorem flatMap_append_inj {Item : Type} {items others : List Item} {write : Item → List Char}
    {after : List Char}
    (item_inj : ∀ item ∈ items, ∀ other ∈ others, ∀ rest after,
      write item ++ rest = write other ++ after → item = other ∧ rest = after)
    (restEnds : ∀ item more, write item ++ more ≠ rest)
    (afterEnds : ∀ item more, write item ++ more ≠ after)
    (same : items.flatMap write ++ rest = others.flatMap write ++ after) :
    items = others ∧ rest = after := by
  induction items generalizing others with
  | nil =>
    cases others with
    | nil => exact ⟨rfl, same⟩
    | cons other others =>
      rw [List.flatMap_cons, List.append_assoc] at same
      exact absurd same.symm (restEnds other _)
  | cons item items ih =>
    cases others with
    | nil =>
      rw [List.flatMap_cons, List.append_assoc] at same
      exact absurd same (afterEnds item _)
    | cons other others =>
      rw [List.flatMap_cons, List.flatMap_cons, List.append_assoc, List.append_assoc] at same
      obtain ⟨rfl, sameItems⟩ :=
        item_inj item List.mem_cons_self other List.mem_cons_self _ _ same
      have later_inj : ∀ item ∈ items, ∀ other ∈ others, ∀ rest after,
          write item ++ rest = write other ++ after → item = other ∧ rest = after :=
        fun item member other otherMember =>
          item_inj item (List.mem_cons_of_mem _ member) other (List.mem_cons_of_mem _ otherMember)
      obtain ⟨rfl, sameRest⟩ := ih later_inj sameItems
      exact ⟨rfl, sameRest⟩

end Text
end UnicodeIdentifier
