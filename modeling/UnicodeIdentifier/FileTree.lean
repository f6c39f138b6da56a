import UnicodeIdentifier.Numeral

/-!
# File trees

A file tree gives each place, which is a list of names leading from the root, at most one node.  The
root is a directory.  Paths are texts with slashes between names; a path that begins with a slash
starts from the root and any other from the working directory.  Reading and writing fail for the
same causes, and with the same words, as on a file system, and of two causes the one that is met
first on the way counts.
-/

namespace UnicodeIdentifier

/-- What stands at a place. -/
inductive Node where
  | file (contents : ByteArray)
  | directory

/-- Why a file cannot be read or written. -/
inductive FileError where
  | notFound
  | notADirectory
  | isADirectory
  /-- The path, or a name on the way, has too many bytes. -/
  | nameTooLong
  | notUtf8
  /-- Something else that the system reports, in its words and with its number. -/
  | other (words : String) (number : Nat)
deriving DecidableEq, Repr

/-- The words for a cause. -/
def FileError.message : FileError → String
  | notFound => "No such file or directory (os error 2)"
  | notADirectory => "Not a directory (os error 20)"
  | isADirectory => "Is a directory (os error 21)"
  | nameTooLong => "File name too long (os error 36)"
  | notUtf8 => "stream did not contain valid UTF-8"
  | other words number => words ++ " (os error " ++ Numeral.decimal number ++ ")"

/-- A place in a tree, as the names that lead to it from the root. -/
abbrev Place := List String

/-- Directories and files below a root, and the directory in which the program runs. -/
structure FileTree where
  /-- The nodes below the root; of several at one place the first counts. -/
  nodes : List (Place × Node)
  /-- The place of the working directory. -/
  home : Place

namespace FileTree

/-- What stands at a place. -/
def node? (tree : FileTree) : Place → Option Node
  | [] => some .directory
  | place => tree.nodes.lookup place

/-- The tree with a node at a place. -/
def put (tree : FileTree) (place : Place) (node : Node) : FileTree :=
  { tree with nodes := (place, node) :: tree.nodes.filter (·.1 != place) }

/-- What stands between the slashes of a path; a component is empty where two slashes meet and where
the path begins or ends with one. -/
def components (path : String) : List String := (path.toList.splitOn '/').map String.ofList

/-- Where the first component of a path is looked up. -/
def origin (tree : FileTree) (path : String) : Place :=
  if path.toList.head? = some '/' then [] else tree.home

/-- The most bytes that a name may have. -/
def maxNameBytes : Nat := 255

/-- The most bytes that a path may have. -/
def maxPathBytes : Nat := 4095

/-- Take one component from a place, which has to be a directory. -/
def step (tree : FileTree) (place : Place) (component : String) : Except FileError Place :=
  match tree.node? place with
  | none => .error .notFound
  | some (.file _) => .error .notADirectory
  | some .directory =>
    if component = "" ∨ component = "." then .ok place
    else if component = ".." then .ok place.dropLast
    else if maxNameBytes < component.utf8ByteSize then .error .nameTooLong
    else .ok (place ++ [component])

/-- Follow the components from a place.  Every place left behind has to be a directory. -/
def follow (tree : FileTree) (place : Place) : List String → Except FileError Place
  | [] => .ok place
  | component :: rest => do tree.follow (← tree.step place component) rest

/-- The components of a path that is neither empty nor too long. -/
def checkedComponents (path : String) : Except FileError (List String) :=
  if path = "" then .error .notFound
  else if maxPathBytes < path.utf8ByteSize then .error .nameTooLong
  else .ok (components path)

/-- The place to which a path leads, whether or not something stands there. -/
def resolve (tree : FileTree) (path : String) : Except FileError Place := do
  tree.follow (tree.origin path) (← checkedComponents path)

/-- The path of a name inside a directory. -/
def join (directory name : String) : String :=
  if directory.toList.getLast?.all (· = '/') then directory ++ name else directory ++ "/" ++ name

/-- The bytes of a file. -/
def readBytes (tree : FileTree) (path : String) : Except FileError ByteArray := do
  match tree.node? (← tree.resolve path) with
  | some (.file contents) => .ok contents
  | some .directory => .error .isADirectory
  | none => .error .notFound

/-- The characters of a file. -/
def readText (tree : FileTree) (path : String) : Except FileError String := do
  match String.fromUTF8? (← tree.readBytes path) with
  | some text => .ok text
  | none => .error .notUtf8

/-- The components without the gaps after the last name. -/
def withoutTrailingGaps (parts : List String) : List String :=
  (parts.reverse.dropWhile (· = "")).reverse

/-- The place of the file that a path names for writing.  A path whose last name is followed by a
slash, and one that ends in no name at all, can only lead to a directory; then it does not matter
whether that last part could be followed. -/
def target (tree : FileTree) (path : String) : Except FileError Place := do
  let parts ← checkedComponents path
  let names := withoutTrailingGaps parts
  match names.getLast? with
  | none => .error .isADirectory
  | some last =>
    let parent ← tree.follow (tree.origin path) names.dropLast
    if last = "." ∨ last = ".." ∨ names ≠ parts then
      let _ ← tree.step parent "."
      .error .isADirectory
    else tree.step parent last

/-- The tree after a file has been written.  The file is made if nothing is there. -/
def write (tree : FileTree) (path : String) (contents : ByteArray) :
    Except FileError FileTree := do
  let place ← tree.target path
  match tree.node? place with
  | some .directory => .error .isADirectory
  | _ => .ok (tree.put place (.file contents))

end FileTree

/-- How files are read and written, each time with what comes of it. -/
structure Files (World : Type → Type) where
  /-- The characters of a file. -/
  read : String → World (Except FileError String)
  /-- Write a file. -/
  write : String → String → World (Except FileError Unit)

/-- Reading from the tree as it is now, and writing into it.  A write that fails changes nothing. -/
def FileTree.files : Files (StateM FileTree) where
  read path := do
    return (← get).readText path
  write path text := modifyGet fun tree =>
    match tree.write path text.toUTF8 with
    | .ok after => (.ok (), after)
    | .error cause => (.error cause, tree)

end UnicodeIdentifier
