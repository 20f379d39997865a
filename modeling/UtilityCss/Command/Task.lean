import UtilityCss.Error

/-!
# Tasks and surroundings

A command line is read by a `Reader`.  It gives the `Task` that is asked for, or it ends the run
itself: with a help text, with the version, or with a complaint about arguments that cannot be used.
The program is written for whatever the reader gives, and takes it as it is: an input that is no
file, an output in a directory that is not there and a format that does not exist are all refused
later, where they matter.

The rest of the `Surroundings` is what a run meets besides the files.  A file name is a sequence of
bytes and need not be text; the bytes that are not are read as characters that stand for them, and
such stray characters can be written neither to a file nor, as a rule, to the standard output.
-/

namespace UtilityCss

/-- A compilation to be run, as the command line gives it. -/
structure CompileRequest where
  input : Text
  output : Option Text
  classNameFormat : Text
  mode : Text
  layers : Bool
  mobileFirst : Bool
  templatesDirectory : Option Text
  showVariables : Bool
  showFiles : Bool
deriving DecidableEq, Repr

/-- The options of the compilation.  The extension of imported files is not for the command line to
choose. -/
def CompileRequest.options (request : CompileRequest) : OptionTexts where
  classNameFormat := request.classNameFormat
  mode := request.mode
  layers := request.layers
  mobileFirst := request.mobileFirst
  templatesDirectory := request.templatesDirectory.getD []

/-- A listing of tokens to be made, as the command line gives it. -/
structure TokensRequest where
  input : Text
  templatesDirectory : Option Text
deriving DecidableEq, Repr

/-- What a command line asks for. -/
inductive Task
  | compile (verbose : Bool) (request : CompileRequest)
  | tokens (verbose : Bool) (request : TokensRequest)
deriving DecidableEq, Repr

/-- How a run ends whose command line asks for no task. -/
structure Ending where
  exitCode : Nat
  /-- What is printed to the standard output. -/
  report : Text
  /-- What is printed to the standard error. -/
  complaint : Text
  abort : Option Abort
deriving DecidableEq, Repr

/-- What a command line asks for in a directory of a tree, which may be looked at. -/
abbrev Reader := FileTree → Location → List Text → Except Ending Task

/-- What a run meets besides the files. -/
structure Surroundings where
  reader : Reader
  /-- The characters that stand for the bytes of a name that is no text. -/
  stray : Char → Bool
  /-- Does the standard output take a line? -/
  prints : Text → Bool
  /-- The seconds that a compilation takes. -/
  seconds : Text

end UtilityCss
