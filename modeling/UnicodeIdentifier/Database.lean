import UnicodeIdentifier.Classifier
import UnicodeIdentifier.Failure

/-!
# The character database

Two files of the database matter: the derived properties, whose first line names the version, and
the property list, from which the pattern characters are taken.  The classifier is made from the two
identifier properties without the pattern characters, provided that what begins an identifier also
continues one.
-/

namespace UnicodeIdentifier
namespace Database

/-- The stem of the name of the file of derived properties. -/
def derivedStem : String := "DerivedCoreProperties"

/-- The name of the file of derived properties. -/
def derivedFile : String := derivedStem ++ ".txt"

/-- The name of the property list. -/
def listFile : String := "PropList.txt"

/-- The entries of a file with the given name and contents. -/
def entriesOf (file contents : String) : Except Failure (List Property.Entry) :=
  (Property.entries contents.toList).mapError (Failure.badLine file)

/-- The version and the entries in the contents of the derived properties.  The version is looked
for before any other line is judged. -/
def ofDerived (contents : String) : Except Failure (Version × List Property.Entry) :=
  match Property.versionOf? derivedStem.toList contents.toList with
  | none => .error (.noVersion derivedFile)
  | some version => (entriesOf derivedFile contents).map (version, ·)

/-- The entries in the contents of the property list. -/
def ofList (contents : String) : Except Failure (List Property.Entry) :=
  entriesOf listFile contents

/-- The pattern characters. -/
def patternOf (list : List Property.Entry) : CodeSet :=
  Property.valuesOf ["Pattern_Syntax", "Pattern_White_Space"] list

/-- The values that begin an identifier. -/
def startOf (derived list : List Property.Entry) : CodeSet :=
  Property.valuesOf ["ID_Start"] derived \ patternOf list

/-- The values that continue an identifier. -/
def continuingOf (derived list : List Property.Entry) : CodeSet :=
  Property.valuesOf ["ID_Continue"] derived \ patternOf list

/-- The classifier of two sets, refused if some value begins an identifier but does not continue
one; the least such value is named. -/
def classifierOf (version : Version) (start continuing : CodeSet) : Except Failure Classifier :=
  match (start \ continuing).min? with
  | some code => .error (.notContinuing code)
  | none => .ok (.ofSets version start continuing)

variable {World : Type → Type} [Monad World]

/-- The contents of a file in a directory, given a reader of files. -/
def contentsFrom (read : String → World (Except FileError String)) (directory file : String) :
    ExceptT Failure World String := do
  let path := FileTree.join directory file
  let contents ← read path
  contents.mapError (Failure.unreadable path)

/-- The classifier of the database in a directory.  The derived properties are read and judged to
their end before the property list is read. -/
def classifierFrom (read : String → World (Except FileError String)) (directory : String) :
    ExceptT Failure World Classifier := do
  let (version, derived) ← ofDerived (← contentsFrom read directory derivedFile)
  let list ← ofList (← contentsFrom read directory listFile)
  classifierOf version (startOf derived list) (continuingOf derived list)

end Database
end UnicodeIdentifier
