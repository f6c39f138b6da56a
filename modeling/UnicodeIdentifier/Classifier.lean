import UnicodeIdentifier.AsciiMask
import UnicodeIdentifier.CodeSet.Runs
import UnicodeIdentifier.CodeValue
import UnicodeIdentifier.IntervalTable
import UnicodeIdentifier.Version

/-!
# Classifiers

A classifier holds all data that decides which characters begin and continue an identifier: a mask
and an interval table for either question.  Below U+0080 only the masks are asked; they include `$`,
and the starting one `_`.  The joiners U+200C and U+200D continue an identifier though no table
holds them.
-/

namespace UnicodeIdentifier

/-- The data that decides which characters begin and continue an identifier. -/
structure Classifier where
  /-- The version of the character database behind the data. -/
  version : Version
  /-- The ASCII characters that begin an identifier. -/
  startMask : AsciiMask
  /-- The ASCII characters that continue an identifier. -/
  continueMask : AsciiMask
  /-- The characters with the property of beginning an identifier. -/
  start : IntervalTable
  /-- The characters with the property of continuing an identifier. -/
  continuing : IntervalTable
deriving DecidableEq

/-- ZERO WIDTH NON-JOINER. -/
def zeroWidthNonJoiner : UInt32 := 0x200C

/-- ZERO WIDTH JOINER. -/
def zeroWidthJoiner : UInt32 := 0x200D

/-- The code point of `$`, which begins and continues identifiers. -/
def dollar : UInt32 := 0x24

/-- The code point of `_`, which begins identifiers. -/
def underscore : UInt32 := 0x5F

namespace Classifier

/-- Whether a code point begins an identifier. -/
def startsAt (classifier : Classifier) (code : UInt32) : Bool :=
  if code < AsciiMask.limit then classifier.startMask.contains code
  else classifier.start.contains code

/-- Whether a code point continues an identifier. -/
def continuesAt (classifier : Classifier) (code : UInt32) : Bool :=
  if code < AsciiMask.limit then classifier.continueMask.contains code
  else if code = zeroWidthNonJoiner ∨ code = zeroWidthJoiner then true
  else classifier.continuing.contains code

/-- Whether the value is a character that may begin an identifier.  A value that is no code point
never is. -/
def isStart (classifier : Classifier) (value : CodeValue) : Bool :=
  match value.toCodePoint? with
  | some code => classifier.startsAt code
  | none => false

/-- Whether the value is a character that may continue an identifier.  A value that is no code
point never is. -/
def isContinue (classifier : Classifier) (value : CodeValue) : Bool :=
  match value.toCodePoint? with
  | some code => classifier.continuesAt code
  | none => false

/-- The classifier of two sets of code values, given without `$`, without the starting `_` and
without the joiners. -/
def ofSets (version : Version) (start continuing : CodeSet) : Classifier where
  version := version
  startMask := AsciiMask.ofSet start ||| AsciiMask.bit dollar ||| AsciiMask.bit underscore
  continueMask := AsciiMask.ofSet continuing ||| AsciiMask.bit dollar
  start := IntervalTable.split start.runs
  continuing := IntervalTable.split continuing.runs

end Classifier
end UnicodeIdentifier
