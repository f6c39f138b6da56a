import UnicodeIdentifier.Standard

/-!
# Tokens

A text is cut into identifiers and single other characters.  An identifier is taken as long as
possible.  Positions count the bytes of the UTF-8 encoding.
-/

namespace UnicodeIdentifier

/-- What a token is. -/
inductive TokenKind where
  /-- A character that begins an identifier and all characters after it that continue one. -/
  | identifier
  /-- A single character that begins no identifier. -/
  | other
deriving DecidableEq, Repr

/-- A piece of a text. -/
structure Token where
  kind : TokenKind
  /-- Byte position of the first character. -/
  start : Nat
  /-- Byte position after the last character. -/
  stop : Nat
  /-- The characters of the piece. -/
  text : String
deriving DecidableEq, Repr

namespace Token

/-- The number of bytes that the characters take in UTF-8. -/
def width : List Char → Nat
  | [] => 0
  | char :: rest => char.utf8Size + width rest

/-- The token of the given characters at a byte position. -/
def ofChars (kind : TokenKind) (start : Nat) (chars : List Char) : Token :=
  ⟨kind, start, start + width chars, String.ofList chars⟩

end Token

namespace Classifier

/-- Whether a character begins an identifier. -/
def begins (classifier : Classifier) (char : Char) : Bool := classifier.isStart char

/-- Whether a character continues an identifier. -/
def continues (classifier : Classifier) (char : Char) : Bool := classifier.isContinue char

/-- Cut characters that begin at a byte position; `found` holds the earlier tokens, latest first. -/
def tokensOnto (classifier : Classifier) (found : List Token) (start : Nat) :
    List Char → List Token
  | [] => found.reverse
  | first :: rest =>
    if classifier.begins first then
      let token :=
        Token.ofChars .identifier start (first :: rest.takeWhile classifier.continues)
      tokensOnto classifier (token :: found) token.stop (rest.dropWhile classifier.continues)
    else
      let token := Token.ofChars .other start [first]
      tokensOnto classifier (token :: found) token.stop rest
termination_by chars => chars.length
decreasing_by
  · exact Nat.lt_succ_of_le (List.dropWhile_sublist _).length_le
  · exact Nat.lt_succ_self _

/-- The tokens of a text under a classifier. -/
def tokenize (classifier : Classifier) (text : String) : List Token :=
  classifier.tokensOnto [] 0 text.toList

end Classifier

/-- The tokens of a text. -/
def tokenize (text : String) : List Token := standard.tokenize text

end UnicodeIdentifier
