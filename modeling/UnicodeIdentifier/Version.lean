/-!
# Version numbers

The version of the character database that a set of tables was made from.
-/

namespace UnicodeIdentifier

/-- A version with three parts, each at most 255. -/
structure Version where
  major : UInt8
  minor : UInt8
  micro : UInt8
deriving DecidableEq, Repr

end UnicodeIdentifier
