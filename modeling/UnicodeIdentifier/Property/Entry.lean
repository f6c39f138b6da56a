import UnicodeIdentifier.Interval
import UnicodeIdentifier.Numeral
import UnicodeIdentifier.Text.Blank
import UnicodeIdentifier.Text.Line

/-!
# Entries of a property file

A data line gives a code value, or two with two dots between them, then a semicolon and the name of
a property.  Blanks around either field and a comment after the name are left out of account.
-/

namespace UnicodeIdentifier
namespace Property

/-- A statement that the values of an interval have a property. -/
structure Entry where
  /-- The values. -/
  interval : Interval
  /-- The name of the property. -/
  name : String
deriving DecidableEq, Repr

namespace Entry

/-- Read the first field of a data line: one value, or the two ends of an interval. -/
def readInterval? (field : List Char) : Option Interval :=
  match Text.splitDots? field with
  | some (lower, upper) => do
    let lo ← Numeral.readHex? lower
    let hi ← Numeral.readHex? upper
    some ⟨lo, hi⟩
  | none => (Numeral.readHex? field).map Interval.point

/-- The name in what follows the semicolon: what stands before the first number sign, trimmed. -/
def nameOf (field : List Char) : List Char :=
  Text.trimEnd ((Text.trim field).takeWhile (· ≠ '#'))

/-- Read a data line.  The line is refused if it has no semicolon, if its first field is not made
of numerals below `2 ^ 32`, or if the lower end is greater than the upper end. -/
def read? (line : List Char) : Option Entry := do
  let (field, rest) ← Text.splitOnce? ';' line
  let interval ← readInterval? (Text.trim field)
  if interval.lo ≤ interval.hi then some ⟨interval, String.ofList (nameOf rest)⟩ else none

end Entry
end Property
end UnicodeIdentifier
