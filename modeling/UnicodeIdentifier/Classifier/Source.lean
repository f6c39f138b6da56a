import UnicodeIdentifier.Classifier
import UnicodeIdentifier.Numeral

/-!
# Classifiers as source text

The text of a module of static data: the version, the two masks in thirty-two hexadecimal digits,
and the two interval tables, one interval to a line.
-/

namespace UnicodeIdentifier

/-- The line of one interval. -/
def Interval.source (interval : Interval) : String :=
  "        (0x" ++ Numeral.hex4 interval.lo ++ ", 0x" ++ Numeral.hex4 interval.hi ++ "),\n"

/-- The text of a mask. -/
def AsciiMask.source (mask : AsciiMask) : String := "0x" ++ Numeral.write 16 32 mask.toNat

namespace IntervalTable

/-- The lines of one view of a table. -/
def viewSource (view : String) (intervals : List Interval) : String :=
  "    " ++ view ++ ": &[\n" ++ String.join (intervals.map Interval.source) ++ "    ],\n"

/-- The lines of a table under a name. -/
def source (table : IntervalTable) (name : String) : String :=
  "pub static " ++ name ++ ": RangeTable = RangeTable \x7b\n" ++
    viewSource "latin1" table.narrow ++ viewSource "wide" table.wide.toList ++ "\x7d;\n"

/-- The lines of several tables, each under its name. -/
def sources (tables : List (String × IntervalTable)) : String :=
  String.join (tables.map fun (name, table) => table.source name)

end IntervalTable

/-- The three parts of a version with the given text between them. -/
def Version.source (version : Version) (separator : String) : String :=
  Numeral.decimal version.major.toNat ++ separator ++ Numeral.decimal version.minor.toNat ++
    separator ++ Numeral.decimal version.micro.toNat

/-- The whole module. -/
def Classifier.source (classifier : Classifier) : String :=
  "use crate::table::RangeTable;\n\n" ++
    "pub const UNICODE_VERSION: (u8, u8, u8) = (" ++ classifier.version.source ", " ++ ");\n\n" ++
    "pub(crate) const ASCII_START: u128 = " ++ classifier.startMask.source ++ ";\n" ++
    "pub(crate) const ASCII_CONTINUE: u128 = " ++ classifier.continueMask.source ++ ";\n\n" ++
    classifier.start.source "ID_START" ++ "\n" ++ classifier.continuing.source "ID_CONTINUE"

end UnicodeIdentifier
