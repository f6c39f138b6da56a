import UnicodeIdentifier.CommandLine
import UnicodeIdentifier.Generator

/-!
# The program

The command line of the generator, which works on the files of the system.
-/

namespace UnicodeIdentifier
namespace Program

/-- How the program is called. -/
def usage : String :=
  "Regenerate the identifier range tables from the Unicode Character Database.\n\n" ++
    "Usage: generate [OPTIONS] <UCD_DIR>\n\n" ++
    "Options:\n" ++
    "      --output <OUTPUT>  Where to write the generated module\n" ++
    "  -h, --help             Print help\n"

/-- The words and the number of an error of the system. -/
def detailsOf : IO.Error → String × UInt32
  | .alreadyExists _ number words | .otherError number words | .resourceBusy number words
  | .resourceVanished number words | .unsupportedOperation number words
  | .hardwareFault number words | .unsatisfiedConstraints number words
  | .illegalOperation number words | .protocolError number words | .timeExpired number words
  | .interrupted _ number words | .noFileOrDirectory _ number words
  | .invalidArgument _ number words | .permissionDenied _ number words
  | .resourceExhausted _ number words | .inappropriateType _ number words
  | .noSuchThing _ number words => (words, number)
  | .unexpectedEof => ("unexpected end of file", 0)
  | .userError words => (words, 0)

/-- The cause behind an error of the system. -/
def causeOf (error : IO.Error) : FileError :=
  match detailsOf error with
  | (_, 2) => .notFound
  | (_, 20) => .notADirectory
  | (_, 21) => .isADirectory
  | (_, 36) => .nameTooLong
  | (words, number) => .other words number.toNat

/-- The files of the system. -/
def files : Files IO where
  read path := do
    try
      match String.fromUTF8? (← IO.FS.readBinFile path) with
      | some text => return .ok text
      | none => return .error .notUtf8
    catch error => return .error (causeOf error)
  write path text := do
    try
      IO.FS.writeFile path text
      return .ok ()
    catch error => return .error (causeOf error)

end Program
end UnicodeIdentifier

/-- Run the generator on the files of the system. -/
def main (arguments : List String) : IO UInt32 := do
  let report ← UnicodeIdentifier.Generator.execute UnicodeIdentifier.Program.files
    UnicodeIdentifier.commandLine arguments
  if report = .helped then IO.print UnicodeIdentifier.Program.usage
  IO.eprint (report.message?.getD UnicodeIdentifier.Program.usage)
  return UInt32.ofNat report.status
