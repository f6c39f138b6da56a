import Mathlib.Data.List.Basic
import UnicodeIdentifier.Classifier.Source
import UnicodeIdentifier.Proofs.Property.File
import UnicodeIdentifier.Proofs.Property.Header

/-!
# Property files put together from entries

An entry has a line that states it, and a version has a header line that names it.  Both are read
back: none of the separators that a line is cut at occurs in a numeral or in the name of a property.
-/

namespace UnicodeIdentifier

variable {interval : Interval} {version : Version} {stem : String}

/-- An interval as the first field of a data line. -/
def Interval.field (interval : Interval) : String :=
  Numeral.hex4 interval.lo ++ ".." ++ Numeral.hex4 interval.hi

theorem Interval.toList_field : interval.field.toList =
    (Numeral.hex4 interval.lo).toList ++ '.' :: '.' :: (Numeral.hex4 interval.hi).toList := by
  simp [Interval.field]

namespace Property

/-- A name of a property that no blank and no number sign occurs in. -/
def IsPlainName (name : String) : Prop :=
  ∀ char ∈ name.toList, Text.isBlank char = false ∧ char ≠ '#'

instance (name : String) : Decidable (IsPlainName name) :=
  List.decidableBAll (fun char => Text.isBlank char = false ∧ char ≠ '#') name.toList

theorem IsPlainName.noLineEnd {name : String} (plain : IsPlainName name) :
    Text.NoLineEnd name.toList :=
  Text.noLineEnd_of_noBlank fun char member => (plain char member).1

theorem IsPlainName.isNameOf {name : String} (plain : IsPlainName name) :
    IsNameOf (' ' :: name.toList) name.toList := by
  have noComment : '#' ∉ ' ' :: name.toList := by
    intro member
    rcases List.mem_cons.mp member with isSpace | inName
    · exact absurd isSpace (by decide)
    · exact (plain _ inName).2 rfl
  have trimmed : Text.IsTrimmed name.toList := Text.isTrimmed_of_noBlank fun char member =>
    (plain char member).1
  have oneBlank : Text.IsBlankRun [' '] := List.forall_mem_singleton.mpr (by decide)
  exact ⟨_, [], (List.append_nil _).symm, noComment, fun _ => nofun,
    [' '], [], (List.append_nil _).symm, oneBlank, Text.isBlankRun_nil, trimmed⟩

namespace Entry

variable {entry : Entry}

/-- The data line that states an entry. -/
def source (entry : Entry) : String := entry.interval.field ++ " ; " ++ entry.name

theorem toList_source : entry.source.toList =
    (entry.interval.field.toList ++ [' ']) ++ ';' :: ' ' :: entry.name.toList := by
  simp [source]

/-- How the line of an entry is laid out. -/
def layout (entry : Entry) : Layout where
  front := []
  field := .range (Numeral.hex4 entry.interval.lo).toList (Numeral.hex4 entry.interval.hi).toList
  back := [' ']
  rest := ' ' :: entry.name.toList

theorem line_layout : entry.layout.line = entry.source.toList := by
  rw [toList_source, Interval.toList_field]
  rfl

theorem states_layout (nonempty : entry.interval.lo ≤ entry.interval.hi)
    (plain : IsPlainName entry.name) : entry.layout.States entry where
  front_blank := Text.isBlankRun_nil
  back_blank := List.forall_mem_singleton.mpr (by decide)
  denotes := ⟨Numeral.isNumeral_hex4 _, Numeral.isNumeral_hex4 _⟩
  ordered := nonempty
  named := plain.isNameOf

/-- The line of an entry states the entry. -/
theorem read?_source (nonempty : entry.interval.lo ≤ entry.interval.hi)
    (plain : IsPlainName entry.name) : Entry.read? entry.source.toList = some entry :=
  Layout.read?_eq_some_iff.mpr ⟨entry.layout, line_layout, states_layout nonempty plain⟩

theorem entryOf?_source (nonempty : entry.interval.lo ≤ entry.interval.hi)
    (plain : IsPlainName entry.name) : entryOf? entry.source.toList = some entry :=
  entryOf?_eq_some_iff.mpr
    ⟨line_layout ▸ (states_layout nonempty plain).isSkipped_line, read?_source nonempty plain⟩

theorem isPlain_source (plain : IsPlainName entry.name) : Text.IsPlain entry.source.toList := by
  apply Text.NoLineEnd.isPlain
  have noEnd (code : UInt32) : Text.NoLineEnd (Numeral.hex4 code).toList :=
    noLineEnd_of_isNumeral (Numeral.isNumeral_hex4 code)
  simp only [source, Interval.field, String.toList_append, Text.noLineEnd_append]
  exact ⟨⟨⟨⟨noEnd _, by decide⟩, noEnd _⟩, by decide⟩, plain.noLineEnd⟩

end Entry

/-- The first line of a file with the given stem, which names a version. -/
def header (stem : String) (version : Version) : String :=
  "# " ++ stem ++ "-" ++ version.source "." ++ ".txt"

theorem toList_versionSource (version : Version) : (version.source ".").toList =
    (Numeral.decimal version.major.toNat).toList ++ '.' ::
      ((Numeral.decimal version.minor.toNat).toList ++ '.' ::
        (Numeral.decimal version.micro.toNat).toList) := by
  simp [Version.source]

theorem isDotted_versionSource (version : Version) : IsDotted (version.source ".").toList
    version.major.toNat version.minor.toNat version.micro.toNat :=
  ⟨_, _, _, toList_versionSource version, Numeral.isNumeral_decimal _, Numeral.isNumeral_decimal _,
    Numeral.isNumeral_decimal _⟩

theorem isHeader_header (stem : String) (version : Version) : IsHeader stem.toList
    (header stem version).toList version.major.toNat version.minor.toNat version.micro.toNat :=
  ⟨(version.source ".").toList, by simp [header], isDotted_versionSource version⟩

/-- A file that begins with the header of a version names this version. -/
theorem versionOf?_header {contents : List Char} {others : List (List Char)}
    (begins : Text.lines contents = (header stem version).toList :: others) :
    versionOf? stem.toList contents = some version := by
  rw [versionOf?_eq_some_iff, ← Text.getD_head?_lines, begins]
  exact isHeader_header stem version

theorem isPlain_header (plain : IsPlainName stem) : Text.IsPlain (header stem version).toList := by
  apply Text.NoLineEnd.isPlain
  have noEnd (value : Nat) : Text.NoLineEnd (Numeral.decimal value).toList :=
    noLineEnd_of_isNumeral (Numeral.isNumeral_decimal value)
  simp only [header, Version.source, String.toList_append, Text.noLineEnd_append]
  exact ⟨⟨⟨⟨by decide, plain.noLineEnd⟩, by decide⟩,
    ⟨⟨⟨noEnd _, by decide⟩, noEnd _⟩, by decide⟩, noEnd _⟩, by decide⟩

theorem isSkipped_header (stem : String) (version : Version) :
    isSkipped (header stem version).toList = true := by
  simp [isSkipped, header]

end Property
end UnicodeIdentifier
