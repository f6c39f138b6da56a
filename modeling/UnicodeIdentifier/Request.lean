/-!
# Requests

What the arguments of a run amount to.  How they are read, and where the program comes from, is not
settled here: a run is given both.

Arguments and paths are texts.  A system may also have names that are no texts; they are left out.
-/

namespace UnicodeIdentifier

/-- What a run is asked to do. -/
structure Request where
  /-- The directory of the property files. -/
  directory : String
  /-- Where to write, unless to the usual place. -/
  output : Option String
deriving DecidableEq, Repr

/-- What the arguments amount to. -/
inductive Invocation where
  | help
  | misuse
  | run (request : Request)
deriving DecidableEq, Repr

/-- What a run is given besides its arguments and the files. -/
structure Setup where
  /-- What a list of arguments amounts to. -/
  invocation : List String → Invocation
  /-- The directory of the program's manifest. -/
  manifest : String

end UnicodeIdentifier
