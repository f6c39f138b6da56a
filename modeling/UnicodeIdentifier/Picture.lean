import UnicodeIdentifier.FileTree
import UnicodeIdentifier.Standard

/-!
# Pictures of a property

A picture has one pixel for each code point, row after row from the top, and a pixel is black where
the property holds.  Two pictures are saved, one for each question.  How a picture is encoded in a
file is left to the caller.
-/

namespace UnicodeIdentifier

/-- A colour by its three components. -/
structure Rgb where
  red : UInt8
  green : UInt8
  blue : UInt8
deriving DecidableEq, Repr

namespace Rgb

/-- No light. -/
def black : Rgb := ⟨0, 0, 0⟩

/-- All light. -/
def white : Rgb := ⟨255, 255, 255⟩

end Rgb

/-- A picture of a property of code values. -/
structure Picture where
  /-- The name of the file. -/
  name : String
  /-- The property shown. -/
  shows : UInt32 → Bool

namespace Picture

/-- The number of pixels in a row. -/
def width : Nat := 512

/-- The number of rows. -/
def height : Nat := 400

/-- The code point at a column of a row. -/
def codeAt (column row : Nat) : UInt32 := UInt32.ofNat (row * width + column)

/-- The colour at a column of a row. -/
def pixel (picture : Picture) (column row : Nat) : Rgb :=
  if picture.shows (codeAt column row) then .black else .white

/-- The colours of a row from left to right. -/
def row (picture : Picture) (row : Nat) : List Rgb :=
  (List.range width).map fun column => picture.pixel column row

/-- The picture of the characters that begin an identifier. -/
def ofStart : Picture := ⟨"id_start.png", fun code => isStart code⟩

/-- The picture of the characters that continue an identifier. -/
def ofContinue : Picture := ⟨"id_continue.png", fun code => isContinue code⟩

/-- The pictures in the order in which they are saved. -/
def all : List Picture := [ofStart, ofContinue]

/-- Save pictures in their order up to the first that cannot be saved. -/
def saveAll (encode : Picture → ByteArray) (tree : FileTree) :
    List Picture → Option FileError × FileTree
  | [] => (none, tree)
  | picture :: rest =>
    match tree.write picture.name (encode picture) with
    | .ok after => saveAll encode after rest
    | .error cause => (some cause, tree)

/-- The exit status after saving. -/
def status (cause? : Option FileError) : Nat := if cause?.isSome then 1 else 0

/-- The words on the error stream after saving. -/
def message (cause? : Option FileError) : String :=
  match cause? with
  | some cause => "Error: " ++ cause.message ++ "\n"
  | none => ""

end Picture
end UnicodeIdentifier
