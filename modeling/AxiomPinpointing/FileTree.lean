import Std.Data.ExtTreeMap
import AxiomPinpointing.FileTree.Path
import AxiomPinpointing.Refusal
import AxiomPinpointing.Source

/-!
# File trees

What the program does to files is described on a **tree** of regular files and directories.  A place
in the tree is given by the names that lead to it, innermost first, so that the directory above is
the tail; the root is the empty list, and always a directory.  One place is the **home**, the
directory in which the program works.  Two trees are equal if they have the same home, and the same
nodes at the same places.

Paths are followed name by name, from the root if they begin with a slash, and from the home if not.
Every name but the last has to lead to a directory, and `.` and `..` have their usual meaning, so
that `..` also leads out of the home.  An operation that cannot be done is refused, and leaves the
tree as it was.

* `FileTree.node?` — what is at a place.
* `FileTree.locate` — the place that a path leads to.
* `FileTree.openFile`, `FileTree.create`, `FileTree.move`, `FileTree.discard` — the operations.
-/

namespace AxiomPinpointing

inductive Node where
  | file (bytes : List UInt8)
  | directory
deriving DecidableEq

/-- A place in a tree: the names that lead to it, innermost first. -/
abbrev Place := List String

structure FileTree where
  nodes : Std.ExtTreeMap Place Node := ∅
  /-- The directory in which the program works. -/
  home : Place := []

namespace FileTree

/-- The tree with nothing below its root, which is its home. -/
def empty : FileTree := {}

def node? (tree : FileTree) : Place → Option Node
  | [] => some .directory
  | name :: above => tree.nodes[name :: above]?

/-- Puts a node at a place, in place of what was there. -/
def put (tree : FileTree) (place : Place) (node : Node) : FileTree :=
  { tree with nodes := tree.nodes.insert place node }

def erase (tree : FileTree) (place : Place) : FileTree :=
  { tree with nodes := tree.nodes.erase place }

@[simp] theorem home_put (tree : FileTree) (place : Place) (node : Node) :
    (tree.put place node).home = tree.home := rfl

@[simp] theorem home_erase (tree : FileTree) (place : Place) :
    (tree.erase place).home = tree.home := rfl

@[simp] theorem node?_nil (tree : FileTree) : tree.node? [] = some .directory := rfl

theorem node?_put_self (tree : FileTree) (name : String) (above : Place) (node : Node) :
    (tree.put (name :: above) node).node? (name :: above) = some node := by
  simp [node?, put]

theorem node?_put_of_ne (tree : FileTree) {place other : Place} (h : place ≠ other)
    (node : Node) : (tree.put place node).node? other = tree.node? other := by
  cases other with
  | nil => rfl
  | cons name above => simp [node?, put, Std.ExtTreeMap.getElem?_insert, h]

theorem node?_erase_self (tree : FileTree) (name : String) (above : Place) :
    (tree.erase (name :: above)).node? (name :: above) = none := by
  simp [node?, erase]

theorem node?_erase_of_ne (tree : FileTree) {place other : Place} (h : place ≠ other) :
    (tree.erase place).node? other = tree.node? other := by
  cases other with
  | nil => rfl
  | cons name above => simp [node?, erase, Std.ExtTreeMap.getElem?_erase, h]

/-! ## Following paths -/

/-- The greatest length of a name, in bytes. -/
def nameLimit : Nat := 255

/-- The greatest length of a path, in bytes. -/
def pathLimit : Nat := 4095

/-- Goes down a tree, or up it for `..`, through directories. -/
def descend (tree : FileTree) : Place → List String → Except Refusal Place
  | place, [] => .ok place
  | place, name :: rest =>
    if name = "." then descend tree place rest
    else if name = ".." then descend tree place.tail rest
    else if nameLimit < name.utf8ByteSize then .error .nameTooLong
    else
      match tree.node? (name :: place) with
      | some .directory => descend tree (name :: place) rest
      | some (.file _) => .error .notDirectory
      | none => .error .notFound

/-- Where a path leads. -/
inductive Target where
  /-- To a directory that is there: the root, or one given by `.` or `..`. -/
  | directory
  /-- To a name in a directory that is there; whether it has to be that of a directory. -/
  | entry (place : Place) (asDirectory : Bool)
deriving DecidableEq

def start (tree : FileTree) (path : String) : Place :=
  if Path.isAbsolute path then [] else tree.home

/-- **Where a path leads**, if all directories on the way are there. -/
def locate (tree : FileTree) (path : String) : Except Refusal Target :=
  if Path.hasNul path then .error .nulInPath
  else if path.isEmpty then .error .notFound
  else if pathLimit < path.utf8ByteSize then .error .nameTooLong
  else
    match (Path.names path).getLast? with
    | none => .ok .directory
    | some name => do
      let above ← tree.descend (tree.start path) (Path.names path).dropLast
      if name = "." ∨ name = ".." then .ok .directory
      else .ok (.entry (name :: above) (Path.endsWithSlash path))

/-- Holds if the innermost name of a place is too long. -/
def isTooLong : Place → Bool
  | [] => false
  | name :: _ => nameLimit < name.utf8ByteSize

/-! ## Operations -/

/-- Opens a file for reading.  A directory can be opened too, but nothing can be read from it. -/
def openFile (tree : FileTree) (path : String) : Except Refusal Source := do
  match ← tree.locate path with
  | .directory => .ok .unreadable
  | .entry place asDirectory =>
    if isTooLong place then .error .nameTooLong
    else
      match tree.node? place with
      | none => .error .notFound
      | some .directory => .ok .unreadable
      | some (.file bytes) => if asDirectory then .error .notDirectory else .ok ⟨bytes, .complete⟩

/-- The place at which a file may be put: one with a name that is not too long, and no directory. -/
def vacancy (tree : FileTree) (path : String) : Except Refusal Place := do
  match ← tree.locate path with
  | .directory | .entry _ true => .error .isDirectory
  | .entry place false =>
    if isTooLong place then .error .nameTooLong
    else if tree.node? place = some .directory then .error .isDirectory
    else .ok place

/-- Creates a file with the given bytes, in place of a file that was there. -/
def create (tree : FileTree) (path : String) (bytes : List UInt8) : Except Refusal FileTree := do
  let place ← tree.vacancy path
  .ok (tree.put place (.file bytes))

/-- The place of a regular file, and its bytes. -/
def regularFile? (tree : FileTree) (path : String) : Option (Place × List UInt8) :=
  match tree.locate path with
  | .ok (.entry place false) =>
    match tree.node? place with
    | some (.file bytes) => some (place, bytes)
    | _ => none
  | _ => none

/-- Moves a regular file, in place of a file that was at its new path. -/
def move (tree : FileTree) (source target : String) : Except Refusal FileTree :=
  match tree.regularFile? source with
  | none => .error .notFound
  | some (place, bytes) => do
    let vacant ← tree.vacancy target
    .ok ((tree.erase place).put vacant (.file bytes))

/-- Removes a regular file, and nothing else: if there is none under the path, nothing happens. -/
def discard (tree : FileTree) (path : String) : FileTree :=
  match tree.regularFile? path with
  | some (place, _) => tree.erase place
  | none => tree

end FileTree

end AxiomPinpointing
