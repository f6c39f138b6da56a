import Mathlib.Data.List.Basic
import UnicodeIdentifier.Proofs.Numeral.Grammar
import UnicodeIdentifier.Proofs.Text.Line
import UnicodeIdentifier.Proofs.Text.Trim
import UnicodeIdentifier.Property.File

/-!
# The grammar of data lines

A data line is laid out as blanks, a field of one or two numerals, blanks, a semicolon and a rest
that names a property.  Since no character of a numeral is blank, a dot or a semicolon, the layout of
a line that states an entry can be found in only one way.  Reading accepts exactly the lines that
have a layout which states an entry, and returns this entry.
-/

namespace UnicodeIdentifier
namespace Property

variable {char : Char} {text rest name : List Char} {interval other : Interval}
  {base value : Nat} {entry : Entry}

theorem numeralChar_ne_separator : ∀ char ∈ Numeral.numeralChars,
    char ≠ '.' ∧ Text.isBlank char = false ∧ char ≠ ';' ∧ char ≠ '#' := by
  -- a test of the list, since deciding the statement itself would go through all characters
  have tested : Numeral.numeralChars.all (fun char =>
      decide (char ≠ '.' ∧ Text.isBlank char = false ∧ char ≠ ';' ∧ char ≠ '#')) = true := by
    decide
  intro char member
  exact of_decide_eq_true (List.all_eq_true.mp tested char member)

theorem ne_separator_of_isNumeral (isNumeral : Numeral.IsNumeral base text value)
    (member : char ∈ text) :
    char ≠ '.' ∧ Text.isBlank char = false ∧ char ≠ ';' ∧ char ≠ '#' :=
  numeralChar_ne_separator char (isNumeral.mem member)

theorem dot_not_mem_of_isNumeral (isNumeral : Numeral.IsNumeral base text value) : '.' ∉ text :=
  fun member => (ne_separator_of_isNumeral isNumeral member).1 rfl

theorem noLineEnd_of_isNumeral (isNumeral : Numeral.IsNumeral base text value) :
    Text.NoLineEnd text :=
  Text.noLineEnd_of_noBlank fun _ member => (ne_separator_of_isNumeral isNumeral member).2.1

/-- The first field of a data line without the blanks around it. -/
inductive Field where
  /-- The numeral of one value. -/
  | single (numeral : List Char)
  /-- The numerals of the ends of an interval. -/
  | range (lower upper : List Char)
deriving DecidableEq

namespace Field

variable {field first second : Field}

/-- The text of a field. -/
def chars : Field → List Char
  | single numeral => numeral
  | range lower upper => lower ++ '.' :: '.' :: upper

/-- The two numerals of a field that has two. -/
def ends? : Field → Option (List Char × List Char)
  | single _ => none
  | range lower upper => some (lower, upper)

/-- The numerals of the field have the ends of the interval as their values. -/
def Denotes : Field → Interval → Prop
  | single numeral, interval =>
    Numeral.IsNumeral 16 numeral interval.lo.toNat ∧ interval.hi = interval.lo
  | range lower upper, interval =>
    Numeral.IsNumeral 16 lower interval.lo.toNat ∧ Numeral.IsNumeral 16 upper interval.hi.toNat

theorem Denotes.splitDots?_chars (denotes : field.Denotes interval) :
    Text.splitDots? field.chars = field.ends? := by
  cases field with
  | single numeral => exact Text.splitDots?_eq_none (dot_not_mem_of_isNumeral denotes.1)
  | range lower upper => exact Text.splitDots?_append (dot_not_mem_of_isNumeral denotes.1)

theorem Denotes.chars_ne_nil (denotes : field.Denotes interval) : field.chars ≠ [] := by
  cases field with
  | single numeral => exact denotes.1.ne_nil
  | range lower upper => exact List.append_ne_nil_of_left_ne_nil denotes.1.ne_nil _

theorem Denotes.ne_separator (denotes : field.Denotes interval) (member : char ∈ field.chars) :
    Text.isBlank char = false ∧ char ≠ ';' ∧ char ≠ '#' := by
  cases field with
  | single numeral => exact (ne_separator_of_isNumeral denotes.1 member).2
  | range lower upper =>
    rw [chars, List.mem_append, List.mem_cons, List.mem_cons] at member
    rcases member with inLower | rfl | rfl | inUpper
    · exact (ne_separator_of_isNumeral denotes.1 inLower).2
    · decide
    · decide
    · exact (ne_separator_of_isNumeral denotes.2 inUpper).2

/-- A text is read in only one way as a field that denotes an interval. -/
theorem Denotes.eq_of_chars_eq (denotes : first.Denotes interval) (denotesOther : second.Denotes other)
    (same : first.chars = second.chars) : first = second := by
  have ends_eq : first.ends? = second.ends? := by
    rw [← denotes.splitDots?_chars, same, denotesOther.splitDots?_chars]
  cases first with
  | single numeral =>
    cases second with
    | single other => exact congrArg single same
    | range lower upper => cases ends_eq
  | range lower upper =>
    cases second with
    | single numeral => cases ends_eq
    | range lower upper =>
      cases ends_eq
      rfl

theorem readInterval?_eq_some_iff : Entry.readInterval? text = some interval ↔
    ∃ field : Field, field.chars = text ∧ field.Denotes interval := by
  constructor
  · intro found
    rw [Entry.readInterval?] at found
    split at found
    · rename_i lower upper isCut
      simp only [Option.bind_eq_bind, Option.bind_eq_some_iff, Option.some.injEq] at found
      obtain ⟨lo, isLower, hi, isUpper, rfl⟩ := found
      exact ⟨range lower upper, (Text.eq_append_of_splitDots? isCut).symm,
        Numeral.readHex?_eq_some_iff.mp isLower, Numeral.readHex?_eq_some_iff.mp isUpper⟩
    · obtain ⟨code, isRead, rfl⟩ := Option.map_eq_some_iff.mp found
      exact ⟨single text, rfl, Numeral.readHex?_eq_some_iff.mp isRead, rfl⟩
  · intro ⟨field, chars_eq, denotes⟩
    rw [Entry.readInterval?, ← chars_eq, denotes.splitDots?_chars]
    cases field with
    | single numeral =>
      obtain ⟨isNumeral, hi_eq⟩ := denotes
      have interval_eq : Interval.point interval.lo = interval :=
        congrArg (Interval.mk interval.lo) hi_eq.symm
      simp only [ends?, chars, Numeral.readHex?_eq_some_iff.mpr isNumeral, Option.map_some,
        interval_eq]
    | range lower upper =>
      simp only [ends?, Numeral.readHex?_eq_some_iff.mpr denotes.1,
        Numeral.readHex?_eq_some_iff.mpr denotes.2, Option.bind_eq_bind, Option.bind_some]

end Field

/-- The name is what stands before the first number sign, without the blanks at its ends. -/
def IsNameOf (rest name : List Char) : Prop :=
  ∃ text comment, rest = text ++ comment ∧ '#' ∉ text ∧ (∀ first ∈ comment.head?, first = '#') ∧
    Text.Strips text name

theorem nameOf_eq_iff : Entry.nameOf rest = name ↔ IsNameOf rest name := by
  have cutFirst : Entry.nameOf rest = Text.trim (rest.takeWhile (· ≠ '#')) :=
    Text.trimEnd_takeWhile_trim rest (by decide)
  rw [cutFirst, Text.trim_eq_iff]
  constructor
  · intro strips
    obtain ⟨rest_eq, absent, begins⟩ := Text.takeWhile_dropWhile_ne_eq_iff.mp ⟨rfl, rfl⟩
    exact ⟨_, _, rest_eq, absent, begins, strips⟩
  · intro ⟨text, comment, rest_eq, absent, begins, strips⟩
    rwa [(Text.takeWhile_dropWhile_ne_eq_iff.mpr ⟨rest_eq, absent, begins⟩).1]

theorem IsNameOf.numberSign_not_mem (isName : IsNameOf rest name) : '#' ∉ name := by
  obtain ⟨text, _, _, absent, _, front, back, text_eq, _⟩ := isName
  intro member
  apply absent
  rw [text_eq]
  exact List.mem_append_left back (List.mem_append_right front member)

theorem IsNameOf.isTrimmed (isName : IsNameOf rest name) : Text.IsTrimmed name := by
  obtain ⟨_, _, _, _, _, strips⟩ := isName
  exact strips.isTrimmed

/-- The pieces of a data line around its semicolon. -/
structure Layout where
  /-- What stands before the first field. -/
  front : List Char
  /-- The first field. -/
  field : Field
  /-- What stands between the first field and the semicolon. -/
  back : List Char
  /-- What stands behind the semicolon. -/
  rest : List Char
deriving DecidableEq

namespace Layout

variable {layout first second : Layout} {otherEntry : Entry}

/-- The text before the semicolon. -/
def head (layout : Layout) : List Char := layout.front ++ layout.field.chars ++ layout.back

/-- The line that is laid out. -/
def line (layout : Layout) : List Char := layout.head ++ ';' :: layout.rest

/-- The pieces follow the grammar and state the entry. -/
structure States (layout : Layout) (entry : Entry) : Prop where
  front_blank : Text.IsBlankRun layout.front
  back_blank : Text.IsBlankRun layout.back
  denotes : layout.field.Denotes entry.interval
  ordered : entry.interval.lo ≤ entry.interval.hi
  named : IsNameOf layout.rest entry.name.toList

theorem States.isTrimmed (states : layout.States entry) : Text.IsTrimmed layout.field.chars :=
  Text.isTrimmed_of_noBlank fun _ member => (states.denotes.ne_separator member).1

theorem States.trim_head (states : layout.States entry) :
    Text.trim layout.head = layout.field.chars :=
  Text.trim_eq_iff.mpr
    ⟨layout.front, layout.back, rfl, states.front_blank, states.back_blank, states.isTrimmed⟩

theorem States.not_mem_head (states : layout.States entry) (noBlank : Text.isBlank char = false)
    (absent : char ∉ layout.field.chars) : char ∉ layout.head := by
  intro member
  rw [head, List.mem_append, List.mem_append] at member
  rcases member with (inFront | inField) | inBack
  · exact Text.not_mem_of_isBlankRun states.front_blank noBlank inFront
  · exact absent inField
  · exact Text.not_mem_of_isBlankRun states.back_blank noBlank inBack

theorem States.numberSign_not_mem_head (states : layout.States entry) : '#' ∉ layout.head :=
  states.not_mem_head (by decide) fun member => (states.denotes.ne_separator member).2.2 rfl

theorem States.splitOnce?_line (states : layout.States entry) :
    Text.splitOnce? ';' layout.line = some (layout.head, layout.rest) := by
  apply Text.splitOnce?_append_cons
  apply states.not_mem_head (by decide)
  intro member
  exact (states.denotes.ne_separator member).2.1 rfl

/-- The pieces before the semicolon are found again in their text. -/
theorem States.eq_of_head_eq (states : first.States entry) (statesOther : second.States otherEntry)
    (head_eq : first.head = second.head) (rest_eq : first.rest = second.rest) : first = second := by
  have chars_eq : first.field.chars = second.field.chars := by
    rw [← states.trim_head, head_eq, statesOther.trim_head]
  have field_eq : first.field = second.field :=
    states.denotes.eq_of_chars_eq statesOther.denotes chars_eq
  have front_eq : first.front = second.front := by
    calc first.front = first.head.takeWhile Text.isBlank :=
          (Text.takeWhile_isBlank states.front_blank states.isTrimmed states.denotes.chars_ne_nil
            first.back).symm
      _ = second.head.takeWhile Text.isBlank := by rw [head_eq]
      _ = second.front :=
          Text.takeWhile_isBlank statesOther.front_blank statesOther.isTrimmed
            statesOther.denotes.chars_ne_nil second.back
  have back_eq : first.back = second.back := by
    rw [head, head, front_eq, field_eq] at head_eq
    exact List.append_cancel_left head_eq
  cases first
  cases second
  simp only at front_eq field_eq back_eq rest_eq
  rw [front_eq, field_eq, back_eq, rest_eq]

/-- A line has at most one layout that states an entry. -/
theorem States.eq_of_line_eq (states : first.States entry) (statesOther : second.States otherEntry)
    (line_eq : first.line = second.line) : first = second := by
  have cuts_eq := states.splitOnce?_line
  rw [line_eq, statesOther.splitOnce?_line, Option.some.injEq, Prod.mk.injEq] at cuts_eq
  exact states.eq_of_head_eq statesOther cuts_eq.1.symm cuts_eq.2.symm

/-- The lines that are read are those with a layout that states an entry. -/
theorem read?_eq_some_iff :
    Entry.read? text = some entry ↔ ∃ layout : Layout, layout.line = text ∧ layout.States entry := by
  constructor
  · intro found
    simp only [Entry.read?, Option.bind_eq_bind, Option.bind_eq_some_iff,
      Option.ite_none_right_eq_some, Option.some.injEq] at found
    obtain ⟨⟨head, rest⟩, isCut, interval, isRead, ordered, rfl⟩ := found
    obtain ⟨line_eq, _⟩ := Text.splitOnce?_eq_some_iff.mp isCut
    obtain ⟨field, chars_eq, denotes⟩ := Field.readInterval?_eq_some_iff.mp isRead
    obtain ⟨front, back, (head_eq : head = _), frontBlank, backBlank, _⟩ :=
      Text.trim_eq_iff.mp chars_eq.symm
    have named : IsNameOf rest (String.ofList (Entry.nameOf rest)).toList := by
      rw [String.toList_ofList]
      exact nameOf_eq_iff.mp rfl
    refine ⟨⟨front, field, back, rest⟩, ?_, ⟨frontBlank, backBlank, denotes, ordered, named⟩⟩
    rw [line_eq, head_eq]
    rfl
  · intro ⟨layout, line_eq, states⟩
    have isRead : Entry.readInterval? (Text.trim layout.head) = some entry.interval :=
      Field.readInterval?_eq_some_iff.mpr ⟨layout.field, states.trim_head.symm, states.denotes⟩
    have name_eq : String.ofList (Entry.nameOf layout.rest) = entry.name := by
      rw [nameOf_eq_iff.mpr states.named, String.ofList_toList]
    rw [Entry.read?, ← line_eq, states.splitOnce?_line]
    simp only [Option.bind_eq_bind, Option.bind_some, isRead, if_pos states.ordered, name_eq]

theorem States.isSkipped_line (states : layout.States entry) : isSkipped layout.line = false := by
  obtain ⟨first, others, isCons⟩ := List.exists_cons_of_ne_nil states.denotes.chars_ne_nil
  have inField : first ∈ layout.field.chars := isCons ▸ List.mem_cons_self
  have inHead : first ∈ layout.head := List.mem_append_left _ (List.mem_append_right _ inField)
  rw [isSkipped, Bool.or_eq_false_iff, beq_eq_false_iff_ne, List.all_eq_false]
  constructor
  · intro begins
    rw [line, List.head?_append_of_ne_nil _ (List.ne_nil_of_mem inHead)] at begins
    exact states.numberSign_not_mem_head (List.mem_of_head? begins)
  · have noBlank := (states.denotes.ne_separator inField).1
    exact ⟨first, List.mem_append_left _ inHead, Bool.eq_false_iff.mp noBlank⟩

end Layout

/-- A line is read as an entry exactly if it has a layout that states the entry.  A line has at most
one layout that states an entry, and the name in an entry that is read holds no number sign and has
no blank at either end. -/
theorem read?_iff_layout (line : List Char) :
    (∀ entry, Entry.read? line = some entry ↔
      ∃ layout : Layout, layout.line = line ∧ layout.States entry) ∧
    (∀ (first second : Layout) (entry other : Entry), first.line = line → second.line = line →
      first.States entry → second.States other → first = second ∧ entry = other) ∧
    ∀ entry, Entry.read? line = some entry →
      '#' ∉ entry.name.toList ∧ Text.IsTrimmed entry.name.toList := by
  refine ⟨fun entry => Layout.read?_eq_some_iff, ?_, ?_⟩
  · intro first second entry other first_eq second_eq states statesOther
    have entries_eq := Layout.read?_eq_some_iff.mpr ⟨first, first_eq, states⟩
    rw [Layout.read?_eq_some_iff.mpr ⟨second, second_eq, statesOther⟩, Option.some.injEq] at entries_eq
    exact ⟨states.eq_of_line_eq statesOther (first_eq.trans second_eq.symm), entries_eq.symm⟩
  · intro entry found
    obtain ⟨layout, _, states⟩ := Layout.read?_eq_some_iff.mp found
    exact ⟨states.named.numberSign_not_mem, states.named.isTrimmed⟩

/-- A line with a plus sign, letters of both cases, a blank that is not a space, and a semicolon and
dots in its comment. -/
def ornateLine : List Char := "\u00a0+4A..05a\t; Name # 1; 2..3".toList

/-- The entry that the line states. -/
def ornateEntry : Entry := ⟨⟨0x4A, 0x5A⟩, "Name"⟩

theorem read?_iff_layout_ornate : Entry.read? ornateLine = some ornateEntry ∧
    (∃! layout : Layout, layout.line = ornateLine ∧ layout.States ornateEntry) ∧
    '#' ∉ ornateEntry.name.toList ∧ Text.IsTrimmed ornateEntry.name.toList := by
  have isRead : Entry.read? ornateLine = some ornateEntry := by decide
  obtain ⟨read_iff, unique, stripped⟩ := read?_iff_layout ornateLine
  obtain ⟨layout, line_eq, states⟩ := (read_iff ornateEntry).mp isRead
  refine ⟨isRead, ⟨layout, ⟨line_eq, states⟩, ?_⟩, stripped ornateEntry isRead⟩
  intro other ⟨other_eq, statesOther⟩
  exact (unique other layout ornateEntry ornateEntry other_eq line_eq statesOther states).1

end Property
end UnicodeIdentifier
