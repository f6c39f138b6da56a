/-!
# Blanks

The blank characters are those with the property `White_Space`; trimming removes them at the ends
of a text.
-/

namespace UnicodeIdentifier
namespace Text

/-- The code points with the property `White_Space`, as closed intervals. -/
def blanks : List (Nat × Nat) :=
  [(0x09, 0x0D), (0x20, 0x20), (0x85, 0x85), (0xA0, 0xA0), (0x1680, 0x1680), (0x2000, 0x200A),
    (0x2028, 0x2029), (0x202F, 0x202F), (0x205F, 0x205F), (0x3000, 0x3000)]

/-- Whether the character is blank. -/
def isBlank (char : Char) : Bool :=
  blanks.any fun (first, last) => first ≤ char.toNat && char.toNat ≤ last

/-- The text without the blanks at its beginning. -/
def trimStart (chars : List Char) : List Char := chars.dropWhile isBlank

/-- The text without the blanks at its end. -/
def trimEnd (chars : List Char) : List Char := (chars.reverse.dropWhile isBlank).reverse

/-- The text without the blanks at either end. -/
def trim (chars : List Char) : List Char := trimEnd (trimStart chars)

end Text
end UnicodeIdentifier
