/-!
# Numerals

Natural numbers are read and written in a base of at most sixteen.  A numeral is read as an
optional plus sign and one or more digits of either case; it is refused as soon as its value
reaches a bound.  Numbers are written with capital digits and filled up with zeros to a least
width.
-/

namespace UnicodeIdentifier
namespace Numeral

/-- The value of a digit of either case. -/
def digitValue? (base : Nat) (char : Char) : Option Nat :=
  let value :=
    if '0' ≤ char ∧ char ≤ '9' then some (char.toNat - '0'.toNat)
    else if 'A' ≤ char ∧ char ≤ 'F' then some (char.toNat - 'A'.toNat + 10)
    else if 'a' ≤ char ∧ char ≤ 'f' then some (char.toNat - 'a'.toNat + 10)
    else none
  value.filter (· < base)

/-- Read on after digits of the given value. -/
def readDigits? (base bound : Nat) (value : Nat) : List Char → Option Nat
  | [] => some value
  | char :: rest =>
    match digitValue? base char with
    | none => none
    | some digit =>
      let longer := value * base + digit
      if longer < bound then readDigits? base bound longer rest else none

/-- The numeral without its plus sign. -/
def dropPlus : List Char → List Char
  | '+' :: digits => digits
  | digits => digits

/-- The value of a numeral, if it is one and lies below the bound. -/
def read? (base bound : Nat) (chars : List Char) : Option Nat :=
  match dropPlus chars with
  | [] => none
  | digits => readDigits? base bound 0 digits

/-- The digit of a value below sixteen. -/
def digitChar (value : Nat) : Char :=
  if value < 10 then Char.ofNat ('0'.toNat + value) else Char.ofNat ('A'.toNat + (value - 10))

/-- The digits of a number in front of those already written. -/
def digitsOnto (base : Nat) (written : List Char) (value : Nat) : List Char :=
  if _ : base < 2 ∨ value < base then digitChar value :: written
  else digitsOnto base (digitChar (value % base) :: written) (value / base)
termination_by value
decreasing_by exact Nat.div_lt_self (by omega) (by omega)

/-- The digits of a number, most significant first. -/
def digits (base value : Nat) : List Char := digitsOnto base [] value

/-- A number with zeros in front up to a least width. -/
def writeChars (base width value : Nat) : List Char :=
  let shown := digits base value
  List.replicate (width - shown.length) '0' ++ shown

/-- A number with zeros in front up to a least width, as a string. -/
def write (base width value : Nat) : String := String.ofList (writeChars base width value)

/-- A number in decimal digits. -/
def decimal (value : Nat) : String := write 10 1 value

/-- A code value in hexadecimal digits, four or more. -/
def hex4 (code : UInt32) : String := write 16 4 code.toNat

/-- Read a 32-bit word from a hexadecimal numeral. -/
def readHex? (chars : List Char) : Option UInt32 :=
  (read? 16 UInt32.size chars).map UInt32.ofNat

/-- Read a byte from a decimal numeral. -/
def readByte? (chars : List Char) : Option UInt8 :=
  (read? 10 UInt8.size chars).map UInt8.ofNat

end Numeral
end UnicodeIdentifier
