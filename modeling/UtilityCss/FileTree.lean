import UtilityCss.Path
import UtilityCss.Text.Utf8

/-!
# File trees

A `FileTree` is what a program can know of a file system: locations that hold the bytes of a file or
are directories.  Every ancestor of a location that is in the tree is there as well, as a directory.
There are no symbolic links, so a location is the only name of its file; there are no permissions,
and a device that is full or broken is left out.

A path as it is written is followed component by component (`FileTree.walk`): every component but
the last has to lead to a directory, `..` goes back to the directory before, and names and paths
have a greatest length.  Reading and writing follow paths in this way and report the first obstacle.

A file is written in two steps.  Opening it leaves it empty (`FileTree.create`), and only then is
the text encoded; a text that cannot be encoded leaves the empty file behind (`FileTree.write`).
-/

namespace UtilityCss

/-- What stands at a location. -/
inductive Node
  | file (bytes : List UInt8)
  | directory
deriving DecidableEq, Repr

/-- Why a path leads nowhere. -/
inductive AccessFault
  | notFound
  | notDirectory
  | isDirectory
  | nameTooLong
deriving DecidableEq, Repr

namespace AccessFault

/-- The wording of a fault. -/
def message : AccessFault → Text
  | .notFound => "No such file or directory"
  | .notDirectory => "Not a directory"
  | .isDirectory => "Is a directory"
  | .nameTooLong => "File name too long"

/-- The number of a fault. -/
def number : AccessFault → Nat
  | .notFound => 2
  | .notDirectory => 20
  | .isDirectory => 21
  | .nameTooLong => 36

end AccessFault

/-- Why a file cannot be read as text. -/
inductive ReadFault
  | access (fault : AccessFault)
  | encoding (fault : Utf8.Fault)
deriving DecidableEq, Repr

/-- The wording of a fault. -/
def ReadFault.message : ReadFault → Text
  | .access fault => fault.message
  | .encoding fault => fault.message

/-- Why a text cannot be written to a file. -/
inductive WriteFault
  | path (fault : NullInPath)
  | access (fault : AccessFault)
  | encoding (fault : Utf8.Unencodable)
deriving DecidableEq, Repr

/-- Locations with what stands there.  The root is a directory without being listed. -/
structure FileTree where
  nodes : List (Location × Node)
deriving DecidableEq, Repr

namespace FileTree

/-- The tree with nothing but its root. -/
def empty : FileTree := ⟨[]⟩

/-- What stands at a location. -/
def node? (tree : FileTree) (location : Location) : Option Node :=
  if location = .root then some .directory else tree.nodes.lookup location

/-- The locations of the tree that hold files. -/
def files (tree : FileTree) : List Location :=
  tree.nodes.filterMap fun (location, node) =>
    match node with
    | .file _ => some location
    | .directory => none

/-! ## Following paths -/

/-- The greatest number of bytes in a name. -/
def nameLimit : Nat := 255

/-- The greatest number of bytes in a path. -/
def pathLimit : Nat := 4095

/-- Follows a name from a place. -/
def descend (tree : FileTree) (place : Location × Node) (name : Text) :
    Except AccessFault (Location × Node) :=
  match place.2 with
  | .file _ => .error .notDirectory
  | .directory =>
    if nameLimit < (Utf8.encode name).length then .error .nameTooLong
    else
      match tree.node? (place.1.child name) with
      | none => .error .notFound
      | some node => .ok (place.1.child name, node)

/-- Follows a component of a path from a place, which has to be a directory. -/
def enter (tree : FileTree) (place : Location × Node) (component : Text) :
    Except AccessFault (Location × Node) :=
  if place.2 ≠ .directory then .error .notDirectory
  else if component = [] ∨ component = ['.'] then .ok place
  else if component = ['.', '.'] then .ok (place.1.parent, .directory)
  else tree.descend place component

/-- Follows the components of a path from a directory. -/
def walk (tree : FileTree) (start : Location) (components : List Text) :
    Except AccessFault (Location × Node) :=
  components.foldlM tree.enter (start, .directory)

/-- The place where following a path begins. -/
def startOf (current : Location) (path : Text) : Location :=
  if path.head? = some '/' then .root else current

/-- Refuses a path that is empty or too long. -/
def checkPath (path : Text) : Except AccessFault Unit :=
  if path = [] then .error .notFound
  else if pathLimit < (Utf8.encode path).length then .error .nameTooLong
  else .ok ()

/-- What stands at the end of a path that is followed from the current directory. -/
def find (tree : FileTree) (current : Location) (path : Text) :
    Except AccessFault (Location × Node) := do
  checkPath path
  tree.walk (startOf current path) (path.splitOn '/')

/-! ## Reading -/

/-- What stands at a location, or the first obstacle on the way from the root. -/
def locate (tree : FileTree) (location : Location) : Except AccessFault Node := do
  checkPath location.toText
  let place ← location.components.foldlM tree.descend (.root, .directory)
  .ok place.2

/-- The bytes of the file at a location. -/
def bytes (tree : FileTree) (location : Location) : Except AccessFault (List UInt8) := do
  match ← tree.locate location with
  | .directory => .error .isDirectory
  | .file bytes => .ok bytes

/-- The text of the file at a location, with line ends of one kind. -/
def read (tree : FileTree) (location : Location) : Except ReadFault Text :=
  match tree.bytes location with
  | .error fault => .error (.access fault)
  | .ok bytes =>
    match Utf8.decode bytes with
    | .error fault => .error (.encoding fault)
    | .ok text => .ok text.unifyLineEnds

/-! ## Changing a tree -/

/-- Sets what stands at a location. -/
def set (tree : FileTree) (location : Location) (node : Node) : FileTree :=
  ⟨tree.nodes.filter (·.1 ≠ location) ++ [(location, node)]⟩

/-- A location and those that it stands in, the outermost first. -/
def ancestors (location : Location) : List Location :=
  (List.range (location.components.length + 1)).map fun count =>
    ⟨location.components.take count⟩

/-- Makes a directory, and those that it stands in, where nothing stands yet. -/
def makeDirectory (tree : FileTree) (location : Location) : FileTree :=
  (ancestors location).foldl (fun tree location =>
    if (tree.node? location).isNone then tree.set location .directory else tree) tree

/-- Puts a file at a location, in directories that are made if they are not there. -/
def putFile (tree : FileTree) (location : Location) (bytes : List UInt8) : FileTree :=
  (tree.makeDirectory location.parent).set location (.file bytes)

/-- Removes a location and everything below it. -/
def erase (tree : FileTree) (location : Location) : FileTree :=
  ⟨tree.nodes.filter fun (other, _) => !location.contains other⟩

/-- Opens a file for writing, at the end of a path that is followed from the current directory.  The
directory has to be there; a file that is there is emptied. -/
def create (tree : FileTree) (current : Location) (path : Text) :
    Except AccessFault (Location × FileTree) := do
  checkPath path
  let components := path.splitOn '/'
  let name := components.getLast?.getD []
  let (directory, node) ← tree.walk (startOf current path) components.dropLast
  if node ≠ .directory then .error .notDirectory
  else if name ∈ [[], ['.'], ['.', '.']] then .error .isDirectory
  else if nameLimit < (Utf8.encode name).length then .error .nameTooLong
  else if tree.node? (directory.child name) = some .directory then .error .isDirectory
  else .ok (directory.child name, tree.set (directory.child name) (.file []))

/-- Writes a text to the file at the end of a path, and gives the tree afterwards whether or not
this worked.  The characters of `stray` have no encoding. -/
def write (tree : FileTree) (stray : Char → Bool) (current : Location) (path text : Text) :
    Except WriteFault Unit × FileTree :=
  if '\x00' ∈ path then (.error (.path {}), tree)
  else
    match tree.create current path with
    | .error fault => (.error (.access fault), tree)
    | .ok (location, opened) =>
      match Utf8.encodeExcept stray text with
      | .error fault => (.error (.encoding fault), opened)
      | .ok bytes => (.ok (), opened.set location (.file bytes))

/-- The files of a tree that an earlier one does not have, or has with other bytes. -/
def changes (before after : FileTree) : List (Location × List UInt8) :=
  after.nodes.filterMap fun (location, node) =>
    match node with
    | .directory => none
    | .file bytes => if before.node? location = some node then none else some (location, bytes)

end FileTree

end UtilityCss
