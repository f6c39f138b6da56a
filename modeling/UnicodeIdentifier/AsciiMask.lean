import UnicodeIdentifier.CodeSet

/-!
# Masks of ASCII characters

A set of ASCII characters is a 128-bit word whose bit `i` stands for the character `i`.
-/

namespace UnicodeIdentifier

/-- One bit for each ASCII character. -/
abbrev AsciiMask := BitVec 128

namespace AsciiMask

/-- The first code value that has no bit in a mask. -/
def limit : UInt32 := 0x80

/-- The mask of one character. -/
def bit (code : UInt32) : AsciiMask := 1#128 <<< code.toNat

/-- The bit of the character is set. -/
def contains (mask : AsciiMask) (code : UInt32) : Bool := mask &&& bit code != 0#128

/-- The mask of the ASCII members of a set; the other members have no part in it. -/
def ofSet (set : CodeSet) : AsciiMask :=
  (set.codes.takeWhile (· < limit)).foldl (fun mask code => mask ||| bit code) 0#128

end AsciiMask
end UnicodeIdentifier
