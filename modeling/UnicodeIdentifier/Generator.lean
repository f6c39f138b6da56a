import UnicodeIdentifier.Classifier.Source
import UnicodeIdentifier.Database
import UnicodeIdentifier.Request

/-!
# Runs of the generator

A run makes a classifier from the character database in a directory and writes it as source text.
It is one program for all that files can be read from and written to, and it ends with a report.
-/

namespace UnicodeIdentifier

/-- How a run ends. -/
inductive Report where
  /-- Help was asked for and given. -/
  | helped
  /-- The arguments were wrong. -/
  | misused
  /-- The run failed. -/
  | failed (cause : Failure)
  /-- The classifier was written to a path. -/
  | wrote (path : String) (classifier : Classifier)
deriving DecidableEq

namespace Report

/-- The exit status. -/
def status : Report → Nat
  | helped => 0
  | misused => 2
  | failed _ => 1
  | wrote _ _ => 0

/-- The words on the error stream.  Those about wrong arguments are left to the program's front. -/
def message? : Report → Option String
  | helped => some ""
  | misused => none
  | failed cause => some cause.message
  | wrote path classifier =>
    some ("wrote " ++ path ++ " (Unicode " ++ classifier.version.source "." ++ ", " ++
      Numeral.decimal classifier.start.size ++ " start ranges, " ++
      Numeral.decimal classifier.continuing.size ++ " continue ranges)\n")

end Report

/-- The path that a request writes to. -/
def Setup.outputOf (setup : Setup) (request : Request) : String :=
  request.output.getD (FileTree.join setup.manifest "../src/tables.rs")

namespace Generator

section

variable {World : Type → Type} [Monad World]

/-- Carry out a request: make the classifier and write it. -/
def perform (files : Files World) (setup : Setup) (request : Request) :
    ExceptT Failure World Classifier := do
  let classifier ← Database.classifierFrom files.read request.directory
  let path := setup.outputOf request
  let written ← files.write path classifier.source
  written.mapError (Failure.unwritable path)
  return classifier

/-- Do what the arguments ask for. -/
def execute (files : Files World) (setup : Setup) (arguments : List String) : World Report := do
  match setup.invocation arguments with
  | .help => return .helped
  | .misuse => return .misused
  | .run request =>
    match ← (perform files setup request).run with
    | .ok classifier => return .wrote (setup.outputOf request) classifier
    | .error cause => return .failed cause

end

/-- Run the generator with some arguments on a file tree. -/
def run (setup : Setup) (arguments : List String) (tree : FileTree) : Report × FileTree :=
  (execute FileTree.files setup arguments).run tree

end Generator
end UnicodeIdentifier
