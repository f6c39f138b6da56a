/-!
# Lines and pieces of a text

A line ends with a line feed or with a carriage return and a line feed.  Only a carriage return
directly before a line feed belongs to the line's end.  What follows the last line feed is a line
of its own unless it is empty.
-/

namespace UnicodeIdentifier
namespace Text

/-- A line without the carriage return that ends it, if one does. -/
def dropReturn (line : List Char) : List Char :=
  if line.getLast? = some '\r' then line.dropLast else line

/-- The lines of a text without their ends. -/
def lines (chars : List Char) : List (List Char) :=
  let pieces := chars.splitOn '\n'
  pieces.dropLast.map dropReturn ++
    match pieces.getLast? with
    | none | some [] => []
    | some unended => [unended]

/-- What stands before and after the first occurrence of a separator. -/
def splitOnce? (separator : Char) (chars : List Char) : Option (List Char × List Char) :=
  match chars.dropWhile (· ≠ separator) with
  | [] => none
  | _ :: after => some (chars.takeWhile (· ≠ separator), after)

/-- What stands before and after the first two dots in a row; `before` holds the characters already
passed, latest first. -/
def splitDotsOnto (before : List Char) : List Char → Option (List Char × List Char)
  | '.' :: '.' :: after => some (before.reverse, after)
  | char :: rest => splitDotsOnto (char :: before) rest
  | [] => none

/-- What stands before and after the first two dots in a row. -/
def splitDots? (chars : List Char) : Option (List Char × List Char) := splitDotsOnto [] chars

end Text
end UnicodeIdentifier
