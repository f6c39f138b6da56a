import UnicodeIdentifier.FileTree
import UnicodeIdentifier.Property.File

/-!
# Failures

The causes for which no classifier is made from the character database, or none is written, and the
words for each.
-/

namespace UnicodeIdentifier

/-- Why a run failed. -/
inductive Failure where
  /-- An input file cannot be read. -/
  | unreadable (path : String) (cause : FileError)
  /-- The first line of a file names no version. -/
  | noVersion (file : String)
  /-- A line of a file is not acceptable. -/
  | badLine (file : String) (bad : Property.BadLine)
  /-- A code value begins an identifier but does not continue one. -/
  | notContinuing (code : UInt32)
  /-- The output file cannot be written. -/
  | unwritable (path : String) (cause : FileError)
deriving DecidableEq

namespace Failure

/-- Where the character database is found, for a run that cannot read it. -/
def downloadHint : String :=
  "Download from https://www.unicode.org/Public/zipped/13.0.0/UCD.zip and unzip."

/-- The words for a failure. -/
def message : Failure → String
  | unreadable path cause => path ++ ": " ++ cause.message ++ "\n" ++ downloadHint ++ "\n"
  | noVersion file => file ++ ": missing version header\n"
  | badLine file bad =>
    file ++ " line " ++ Numeral.decimal bad.number ++ " is unexpected:\n" ++
      String.ofList bad.line ++ "\n"
  | notContinuing code =>
    "U+" ++ Numeral.hex4 code ++ " is ID_Start but not ID_Continue; refusing to emit tables\n"
  | unwritable path cause => path ++ ": " ++ cause.message ++ "\n"

end Failure
end UnicodeIdentifier
