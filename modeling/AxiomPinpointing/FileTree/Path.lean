/-!
# Paths

A path is a text in which slashes separate names.  Empty names do not count, so slashes may be
doubled.  A slash in front says that the path starts at the root, and not at the directory one works
in; a slash at the end says that a directory is meant.

* `Path.names` — the names.
* `Path.isAbsolute` — whether the path starts at the root.
* `Path.join` — a path below another.
* `Path.extension?` — what follows the last dot of the last name.
-/

namespace AxiomPinpointing.Path

/-- The names of a path, from the root down. -/
def names (path : String) : List String :=
  ((path.toList.splitOn '/').filter (!·.isEmpty)).map String.ofList

/-- Holds if the path starts at the root. -/
def isAbsolute (path : String) : Bool :=
  path.toList.head? = some '/'

/-- Holds if the path ends with a slash. -/
def endsWithSlash (path : String) : Bool :=
  path.toList.getLast? = some '/'

/-- Holds if there is a NUL in the path.  For the system a NUL ends the text, so no path has one. -/
def hasNul (path : String) : Bool :=
  path.toList.contains '\x00'

/-- A path below a directory.  A second path that starts at the root stays as it is, and where the
first is empty or ends with a slash, none is added. -/
def join (directory path : String) : String :=
  if isAbsolute path then path
  else if directory.isEmpty || endsWithSlash directory then directory ++ path
  else directory ++ "/" ++ path

/-- What follows the last dot of a name, unless that dot is its first character. -/
def nameExtension? (name : List Char) : Option (List Char) :=
  match name.reverse.span (· ≠ '.') with
  | (ending, _ :: _ :: _) => some ending.reverse
  | _ => none

/-- What follows the last dot of the last name of a path. -/
def extension? (path : String) : Option String :=
  match ((names path).filter (· ≠ ".")).getLast? with
  | none | some ".." => none
  | some name => (nameExtension? name.toList).map String.ofList

end AxiomPinpointing.Path
