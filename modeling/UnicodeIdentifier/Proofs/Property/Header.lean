import UnicodeIdentifier.Proofs.Property.Layout
import UnicodeIdentifier.Proofs.Text.LineEnd

/-!
# The grammar of headers

The header of a file is a number sign, a blank, the stem of the file's name, a hyphen, three decimal
numerals with dots between them and the ending of the name.  No numeral holds a dot, so the dots of the
stem and of the ending are never taken for those between the numerals.  A file names a version exactly
if its first line is a header whose numbers fit into bytes.
-/

namespace UnicodeIdentifier

/-- The three numbers of a version. -/
def Version.numbers (version : Version) : Nat × Nat × Nat :=
  (version.major.toNat, version.minor.toNat, version.micro.toNat)

namespace Property

variable {stem contents other text : List Char} {version : Version} {major minor micro : Nat}

/-- The text is made of decimal numerals of the three numbers with dots between them. -/
def IsDotted (text : List Char) (major minor micro : Nat) : Prop :=
  ∃ first second third, text = first ++ '.' :: (second ++ '.' :: third) ∧
    Numeral.IsNumeral 10 first major ∧ Numeral.IsNumeral 10 second minor ∧
    Numeral.IsNumeral 10 third micro

/-- The line is the header of a file with the stem and states the three numbers. -/
def IsHeader (stem line : List Char) (major minor micro : Nat) : Prop :=
  ∃ text, line = "# ".toList ++ stem ++ ['-'] ++ text ++ ".txt".toList ∧
    IsDotted text major minor micro

theorem readVersion?_eq_some_iff : readVersion? text = some version ↔
    IsDotted text version.major.toNat version.minor.toNat version.micro.toNat := by
  simp only [readVersion?, Option.bind_eq_bind, Option.bind_eq_some_iff, Prod.exists]
  constructor
  · intro isRead
    obtain ⟨first, rest, isCut, second, third, restCut, major, isMajor, minor, isMinor, micro, isMicro,
      isVersion⟩ := isRead
    obtain rfl := Option.some.inj isVersion
    obtain ⟨rfl, _⟩ := Text.splitOnce?_eq_some_iff.mp isCut
    obtain ⟨rfl, _⟩ := Text.splitOnce?_eq_some_iff.mp restCut
    exact ⟨first, second, third, rfl, Numeral.readByte?_eq_some_iff.mp isMajor,
      Numeral.readByte?_eq_some_iff.mp isMinor, Numeral.readByte?_eq_some_iff.mp isMicro⟩
  · intro isDotted
    obtain ⟨first, second, third, rfl, isMajor, isMinor, isMicro⟩ := isDotted
    exact ⟨first, _, Text.splitOnce?_append_cons (dot_not_mem_of_isNumeral isMajor), second, third,
      Text.splitOnce?_append_cons (dot_not_mem_of_isNumeral isMinor),
      _, Numeral.readByte?_eq_some_iff.mpr isMajor, _, Numeral.readByte?_eq_some_iff.mpr isMinor,
      _, Numeral.readByte?_eq_some_iff.mpr isMicro, rfl⟩

namespace IsHeader

variable {line : List Char} (isHeader : IsHeader stem line major minor micro)

include isHeader

theorem ne_nil : line ≠ [] := by
  obtain ⟨text, rfl, _⟩ := isHeader
  simp

theorem getLast?_eq : line.getLast? = some 't' := by
  obtain ⟨text, rfl, _⟩ := isHeader
  rw [List.getLast?_append]
  rfl

end IsHeader

/-- A file names a version if its first line is the header of the version. -/
theorem versionOf?_eq_some_iff : versionOf? stem contents = some version ↔
    IsHeader stem (Text.firstLine contents) version.major.toNat version.minor.toNat
      version.micro.toNat := by
  simp only [versionOf?, Option.bind_eq_bind, Option.bind_eq_some_iff,
    List.isPrefixOf?_eq_some_iff_append_eq, List.isSuffixOf?_eq_some_iff_append_eq,
    readVersion?_eq_some_iff]
  constructor
  · intro named
    obtain ⟨header, isFirst, rest, header_eq, text, rest_eq, isDotted⟩ := named
    have nonempty : contents ≠ [] := by
      rintro rfl
      cases isFirst
    rw [Text.head?_lines nonempty, Option.some.injEq] at isFirst
    refine ⟨text, ?_, isDotted⟩
    rw [isFirst, ← header_eq, ← rest_eq, List.append_assoc _ text]
  · intro isHeader
    have nonempty : contents ≠ [] := by
      rintro rfl
      exact isHeader.ne_nil rfl
    obtain ⟨text, header_eq, isDotted⟩ := isHeader
    refine ⟨_, Text.head?_lines nonempty, text ++ ".txt".toList, ?_, text, rfl, isDotted⟩
    rw [header_eq, List.append_assoc _ text]

/-- What follows the first line has no part in the version. -/
theorem versionOf?_congr (same : Text.firstLine other = Text.firstLine contents) :
    versionOf? stem other = versionOf? stem contents := by
  apply Option.ext
  intro version
  rw [versionOf?_eq_some_iff, versionOf?_eq_some_iff, same]

theorem map_numbers_versionOf?_eq_some_iff :
    (versionOf? stem contents).map Version.numbers = some (major, minor, micro) ↔
      IsHeader stem (Text.firstLine contents) major minor micro ∧
        major ≤ 255 ∧ minor ≤ 255 ∧ micro ≤ 255 := by
  rw [Option.map_eq_some_iff]
  constructor
  · intro named
    obtain ⟨version, isNamed, numbers_eq⟩ := named
    rw [Version.numbers, Prod.mk.injEq, Prod.mk.injEq] at numbers_eq
    obtain ⟨rfl, rfl, rfl⟩ := numbers_eq
    exact ⟨versionOf?_eq_some_iff.mp isNamed, Nat.le_of_lt_succ version.major.toNat_lt,
      Nat.le_of_lt_succ version.minor.toNat_lt, Nat.le_of_lt_succ version.micro.toNat_lt⟩
  · intro ⟨isHeader, majorSmall, minorSmall, microSmall⟩
    have restored {number : Nat} (small : number ≤ 255) : (UInt8.ofNat number).toNat = number :=
      UInt8.toNat_ofNat_of_lt' (Nat.lt_succ_of_le small)
    refine ⟨⟨.ofNat major, .ofNat minor, .ofNat micro⟩, versionOf?_eq_some_iff.mpr ?_, ?_⟩
    · rwa [restored majorSmall, restored minorSmall, restored microSmall]
    · rw [Version.numbers, restored majorSmall, restored minorSmall, restored microSmall]

/-- A file names the version whose numbers stand in the header that is its first line, provided that
they fit into bytes, and otherwise it names none.  What follows the first line has no part in this. -/
theorem versionOf?_iff_header (stem contents : List Char) :
    (∀ major minor micro,
      (versionOf? stem contents).map Version.numbers = some (major, minor, micro) ↔
        IsHeader stem (Text.firstLine contents) major minor micro ∧
          major ≤ 255 ∧ minor ≤ 255 ∧ micro ≤ 255) ∧
    (versionOf? stem contents = none ↔ ∀ major minor micro,
      IsHeader stem (Text.firstLine contents) major minor micro →
        ¬ (major ≤ 255 ∧ minor ≤ 255 ∧ micro ≤ 255)) ∧
    ∀ other, Text.firstLine other = Text.firstLine contents →
      versionOf? stem other = versionOf? stem contents := by
  refine ⟨fun _ _ _ => map_numbers_versionOf?_eq_some_iff, ?_, fun other => versionOf?_congr⟩
  rw [← Option.map_eq_none_iff (f := Version.numbers), Option.eq_none_iff_forall_ne_some]
  simp only [Prod.forall, ne_eq, map_numbers_versionOf?_eq_some_iff, not_and]

/-- A stem that looks like a header, with a hyphen, a dot and digits. -/
def dottedStem : List Char := "A-1.2".toList

/-- A header of this stem with a plus sign, zeros in front and the greatest byte. -/
def dottedHeader : List Char := "# A-1.2-+013.00.255.txt".toList

/-- The header is also that of a file in which a carriage return and other lines follow it. -/
theorem versionOf?_iff_header_dotted : IsHeader dottedStem dottedHeader 13 0 255 ∧
    Text.firstLine (dottedHeader ++ "\r\n# A-1.2-9.txt".toList) = Text.firstLine dottedHeader ∧
    versionOf? dottedStem (dottedHeader ++ "\r\n# A-1.2-9.txt".toList) = some ⟨13, 0, 255⟩ := by
  have named : versionOf? dottedStem dottedHeader = some ⟨13, 0, 255⟩ := by decide
  have same : Text.firstLine (dottedHeader ++ "\r\n# A-1.2-9.txt".toList) =
      Text.firstLine dottedHeader := by decide
  obtain ⟨numbers_iff, _, firstLineOnly⟩ := versionOf?_iff_header dottedStem dottedHeader
  have isHeader := ((numbers_iff 13 0 255).mp (by rw [named]; rfl)).1
  exact ⟨isHeader, same, (firstLineOnly _ same).trans named⟩

end Property
end UnicodeIdentifier
