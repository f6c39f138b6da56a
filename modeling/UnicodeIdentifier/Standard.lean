import UnicodeIdentifier.Classifier
import UnicodeIdentifier.Property.IdContinue
import UnicodeIdentifier.Property.IdStart

/-!
# The standard classifier

The classifier of version 13.0.0 of the character database, and the two questions asked of it.
-/

namespace UnicodeIdentifier

/-- The classifier of version 13.0.0. -/
def standard : Classifier where
  version := ⟨13, 0, 0⟩
  startMask := 0x07FFFFFE87FFFFFE0000001000000000#128
  continueMask := 0x07FFFFFE87FFFFFE03FF001000000000#128
  start := Property.idStart
  continuing := Property.idContinue

/-- Whether the value is a character that may begin an identifier. -/
def isStart (value : CodeValue) : Bool := standard.isStart value

/-- Whether the value is a character that may continue an identifier. -/
def isContinue (value : CodeValue) : Bool := standard.isContinue value

end UnicodeIdentifier
