import UtilityCss.Text.Blank

/-!
# Paths and locations

A `Path` is a path as it is written: relative or absolute, with its components in order.  Empty
components and `.` mean nothing and are dropped when it is read (`Path.parse`); `..` is kept,
because what it means depends on where the path is used.

A `Location` is an absolute path without `..`, the name by which a file is known.
`Location.join` finds the location that a path leads to from another one: `..` takes back the last
component, and stays at the root.  A path with a null character leads nowhere, whatever stands
before or after it, and `Location.resolve` refuses it.
-/

namespace UtilityCss

/-- How a path begins. -/
inductive Root
  | relative
  | absolute
  /-- Exactly two slashes, which are kept apart from one. -/
  | doubled
deriving DecidableEq, Repr

/-- A path as it is written. -/
structure Path where
  root : Root
  components : List Text
deriving DecidableEq, Repr

/-- A null character stands in a path. -/
structure NullInPath
deriving DecidableEq, Repr

/-- The wording for a null character in a path. -/
def NullInPath.message (_ : NullInPath) : Text := "embedded null byte"

/-- A path without a name was to be given a suffix. -/
structure EmptyName where
  path : Path
deriving DecidableEq, Repr

/-- An absolute path without `..`. -/
structure Location where
  components : List Text
deriving DecidableEq, Repr

namespace Path

/-- The beginning of a written path. -/
def rootOf : Text → Root
  | '/' :: '/' :: '/' :: _ => .absolute
  | '/' :: '/' :: _ => .doubled
  | '/' :: _ => .absolute
  | _ => .relative

/-- Reads a path.  Empty components and `.` are dropped. -/
def parse (text : Text) : Path :=
  ⟨rootOf text, (text.splitOn '/').filter fun component => component ≠ [] ∧ component ≠ ['.']⟩

/-- How the beginning of a path is written. -/
def rootText : Root → Text
  | .relative => ""
  | .absolute => "/"
  | .doubled => "//"

/-- The path as it is written; the empty relative path is a point. -/
def toText (path : Path) : Text :=
  if path.root = .relative ∧ path.components = [] then "."
  else rootText path.root ++ Text.join "/" path.components

/-! ## Stem and suffix -/

/-- A file name in two: up to its last point, and from there on.  A point that is the first or last
character divides nothing. -/
def splitName (name : Text) : Text × Text :=
  let suffix := (name.reverse.takeWhile (· ≠ '.')).reverse
  let stem := ((name.reverse.dropWhile (· ≠ '.')).drop 1).reverse
  if stem = [] ∨ suffix = [] then (name, []) else (stem, '.' :: suffix)

/-- The last component, which is empty if there is none. -/
def fileName (components : List Text) : Text := components.getLast?.getD []

/-- The last component without its suffix. -/
def stem (path : Path) : Text := (splitName (fileName path.components)).1

/-- The suffix of the last component, with its point. -/
def suffix (path : Path) : Text := (splitName (fileName path.components)).2

/-- One path after another.  An absolute path stands for itself. -/
def join (path other : Path) : Path :=
  if other.root = .relative then { path with components := path.components ++ other.components }
  else other

/-- Does a null character stand in the path? -/
def hasNull (path : Path) : Bool := path.components.any ('\x00' ∈ ·)

/-- The path with another suffix on its last component. -/
def withSuffix (path : Path) (suffix : Text) : Path :=
  { path with components := path.components.dropLast ++ [path.stem ++ suffix] }

end Path

namespace Location

/-- The root of the file system. -/
def root : Location := ⟨[]⟩

/-- The location as it is written. -/
def toText (location : Location) : Text := "/" ++ Text.join "/" location.components

/-- The directory that a location stands in; the root stands in itself. -/
def parent (location : Location) : Location := ⟨location.components.dropLast⟩

/-- The location of a name in a directory. -/
def child (location : Location) (name : Text) : Location := ⟨location.components ++ [name]⟩

/-- Is the other location this one or below it? -/
def contains (location other : Location) : Bool :=
  location.components.isPrefixOf other.components

/-- The location that one more component leads to. -/
def step (location : Location) (component : Text) : Location :=
  if component = ['.', '.'] then location.parent else location.child component

/-- The location that a path leads to.  An absolute path does so from anywhere. -/
def join (location : Location) (path : Path) : Location :=
  path.components.foldl step (if path.root = .relative then location else root)

/-- The location that a path leads to, if it can be followed. -/
def resolve (location : Location) (path : Path) : Except NullInPath Location :=
  if path.hasNull then .error {} else .ok (location.join path)

/-- The last component without its suffix. -/
def stem (location : Location) : Text := (Path.splitName (Path.fileName location.components)).1

end Location

/-! ## Names of layers -/

/-- The text with a hyphen for each run of blanks; `inside` says whether a run has begun. -/
def Text.hyphenated (inside : Bool) : Text → Text
  | [] => []
  | c :: rest =>
    if isBlank c then
      if inside then hyphenated true rest else '-' :: hyphenated true rest
    else c :: hyphenated false rest

/-- The name of the layer for a file with the given stem: one word. -/
def layerName (stem : Text) : Text := Text.hyphenated false stem

end UtilityCss
