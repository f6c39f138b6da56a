/-!
# Values that may be code points

Code points are 32-bit words.  A caller may ask about a value of any of eleven types; the value is
first turned into a code point, which succeeds exactly on the integers from `0` to `0x10FFFF`.
-/

namespace UnicodeIdentifier

/-- The largest code point. -/
def maxCodePoint : UInt32 := 0x10FFFF

/-- A character or a machine integer about which the classifier may be asked. -/
inductive CodeValue where
  | uint8 (value : UInt8)
  | uint16 (value : UInt16)
  | uint32 (value : UInt32)
  | uint64 (value : UInt64)
  | usize (value : USize)
  | int8 (value : Int8)
  | int16 (value : Int16)
  | int32 (value : Int32)
  | int64 (value : Int64)
  | isize (value : ISize)
  | char (value : Char)

namespace CodeValue

/-- The integer that a value denotes; a character denotes its scalar value. -/
def toInt : CodeValue → Int
  | uint8 value => value.toNat
  | uint16 value => value.toNat
  | uint32 value => value.toNat
  | uint64 value => value.toNat
  | usize value => value.toNat
  | int8 value => value.toInt
  | int16 value => value.toInt
  | int32 value => value.toInt
  | int64 value => value.toInt
  | isize value => value.toInt
  | char value => value.toNat

/-- A 64-bit word is a code point when it is at most `maxCodePoint`; only then is it narrowed. -/
def ofUnsigned? (word : UInt64) : Option UInt32 :=
  if word ≤ maxCodePoint.toUInt64 then some word.toUInt32 else none

/-- A signed 64-bit word is a code point when it is neither negative nor above `maxCodePoint`. -/
def ofSigned? (word : Int64) : Option UInt32 :=
  if 0 ≤ word ∧ word ≤ maxCodePoint.toUInt64.toInt64 then some word.toUInt64.toUInt32 else none

/-- The code point that a value denotes, if it denotes one. -/
def toCodePoint? : CodeValue → Option UInt32
  | uint8 value => ofUnsigned? value.toUInt64
  | uint16 value => ofUnsigned? value.toUInt64
  | uint32 value => ofUnsigned? value.toUInt64
  | uint64 value => ofUnsigned? value
  | usize value => ofUnsigned? value.toUInt64
  | int8 value => ofSigned? value.toInt64
  | int16 value => ofSigned? value.toInt64
  | int32 value => ofSigned? value.toInt64
  | int64 value => ofSigned? value
  | isize value => ofSigned? value.toInt64
  | char value => some value.val

instance : Coe UInt32 CodeValue := ⟨uint32⟩

instance : Coe Char CodeValue := ⟨char⟩

end CodeValue

end UnicodeIdentifier
