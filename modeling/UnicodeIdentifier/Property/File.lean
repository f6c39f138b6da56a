import UnicodeIdentifier.CodeSet
import UnicodeIdentifier.Property.Entry
import UnicodeIdentifier.Version

/-!
# Property files

A property file is made of comment lines, blank lines and data lines.  The file of derived
properties names its version in its first line.
-/

namespace UnicodeIdentifier
namespace Property

/-- A line that carries no data: a comment, or nothing but blanks. -/
def isSkipped (line : List Char) : Bool :=
  line.head? == some '#' || line.all Text.isBlank

/-- A line that is neither skipped nor a data line, with its number counted from zero. -/
structure BadLine where
  number : Nat
  line : List Char
deriving DecidableEq, Repr

/-- Read lines from the given number on; `found` holds the earlier entries, latest first. -/
def entriesOnto (found : List Entry) (number : Nat) : List (List Char) →
    Except BadLine (List Entry)
  | [] => .ok found.reverse
  | line :: rest =>
    if isSkipped line then entriesOnto found (number + 1) rest
    else
      match Entry.read? line with
      | some entry => entriesOnto (entry :: found) (number + 1) rest
      | none => .error ⟨number, line⟩

/-- The entries of a file in their order, or the first line that is not acceptable. -/
def entries (contents : List Char) : Except BadLine (List Entry) :=
  entriesOnto [] 0 (Text.lines contents)

/-- The values to which the entries give one of the named properties. -/
def valuesOf (names : List String) (entries : List Entry) : CodeSet :=
  CodeSet.ofIntervals ((entries.filter (names.contains ·.name)).map (·.interval))

/-- Read three numbers with dots between them. -/
def readVersion? (chars : List Char) : Option Version := do
  let (major, rest) ← Text.splitOnce? '.' chars
  let (minor, micro) ← Text.splitOnce? '.' rest
  return ⟨← Numeral.readByte? major, ← Numeral.readByte? minor, ← Numeral.readByte? micro⟩

/-- The version that a file with the given stem names in its first line, which is a number sign, a
blank, the stem, a hyphen, the version and the ending of the file's name. -/
def versionOf? (stem : List Char) (contents : List Char) : Option Version := do
  let header ← (Text.lines contents).head?
  let named ← ("# ".toList ++ stem ++ ['-']).isPrefixOf? header
  readVersion? (← ".txt".toList.isSuffixOf? named)

end Property
end UnicodeIdentifier
