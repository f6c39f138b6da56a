import UnicodeIdentifier.Request

/-!
# The command line

The program takes one directory and, at most once, an option that says where to write.  Arguments
are judged from left to right, so a request for help counts only if nothing before it is wrong.
-/

namespace UnicodeIdentifier

namespace Invocation

/-- The argument is an option and no value: it begins with a hyphen and is not a lone hyphen. -/
def isOption (argument : String) : Bool :=
  argument.toList.head? == some '-' && argument != "-"

/-- The value joined to the output option by an equals sign. -/
def joinedOutput? (argument : String) : Option String :=
  ("--output=".toList.isPrefixOf? argument.toList).map String.ofList

/-- A cluster of one-letter options that begins with the letter for help, or the long option. -/
def asksForHelp (argument : String) : Bool :=
  argument == "--help" || "-h".toList.isPrefixOf argument.toList

/-- Take a directory, unless it is empty or there is one already. -/
def addDirectory (directory? : Option String) (argument : String) : Option String :=
  if directory?.isNone ∧ argument ≠ "" then some argument else none

/-- Take an output path, unless it is empty or there is one already. -/
def addOutput (output? : Option String) (value : String) : Option String :=
  if output?.isNone ∧ value ≠ "" then some value else none

/-- The request for what has been gathered. -/
def finish (directory? output? : Option String) : Invocation :=
  match directory? with
  | some directory => run ⟨directory, output?⟩
  | none => misuse

/-- Judge arguments among which none is an option. -/
def readPlain (directory? output? : Option String) : List String → Invocation
  | [] => finish directory? output?
  | argument :: rest =>
    match addDirectory directory? argument with
    | some directory => readPlain (some directory) output? rest
    | none => misuse

/-- Judge arguments, given what earlier ones have settled. -/
def readFrom (directory? output? : Option String) : List String → Invocation
  | [] => finish directory? output?
  | "--" :: rest => readPlain directory? output? rest
  | "--output" :: value :: rest =>
    if isOption value then misuse
    else
      match addOutput output? value with
      | some output => readFrom directory? (some output) rest
      | none => misuse
  | argument :: rest =>
    if asksForHelp argument then help
    else
      match joinedOutput? argument with
      | some value =>
        match addOutput output? value with
        | some output => readFrom directory? (some output) rest
        | none => misuse
      | none =>
        if isOption argument then misuse
        else
          match addDirectory directory? argument with
          | some directory => readFrom (some directory) output? rest
          | none => misuse

/-- What a list of arguments amounts to. -/
def ofArguments (arguments : List String) : Invocation := readFrom none none arguments

end Invocation

/-- The program as it is called from the directory that holds `generate`. -/
def commandLine : Setup := ⟨Invocation.ofArguments, "generate"⟩

end UnicodeIdentifier
