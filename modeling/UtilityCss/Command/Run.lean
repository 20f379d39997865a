import UtilityCss.Command.Usage
import UtilityCss.Text.ControlSequence
import UtilityCss.Trace

/-!
# Running a command line

`Command.runIn` says what a command line does in a tree of files: what is printed to each of the two
output streams, the exit code, and the tree afterwards.  What it depends on besides the files are
its `Surroundings`; the time that a compilation takes is put into its report by whoever measures it
(`Outcome.standardOutput`).  `Command.run` takes the usual surroundings.

The report of a compilation is printed when the style sheet stands where it belongs, so a report
that the standard output does not take ends a run that has written all it had to write.

What is printed loses its control sequences unless it goes to a terminal.  What is logged is written
as it is.
-/

namespace UtilityCss

/-- What running a command line comes to. -/
structure Outcome where
  exitCode : Nat
  /-- What is printed to the standard output. -/
  report : Text
  /-- Does the report end with the time that was taken? -/
  timed : Bool
  /-- What is logged on the standard error. -/
  log : Text
  /-- What is printed to the standard error after the log. -/
  complaint : Text
  /-- The files afterwards. -/
  tree : FileTree
  /-- The file that could not be loaded, if that is what went wrong. -/
  missing : Option Location
  /-- What ended the run before it came to a result of its own. -/
  abort : Option Abort
deriving DecidableEq, Repr

namespace Outcome

/-- A printed text as it reaches its stream. -/
def delivered (terminal : Bool) (text : Text) : Text :=
  if terminal then text else text.withoutControls

/-- The last line of a report that tells the time. -/
def timeLine (seconds : Text) : Text := "Execution time: " ++ seconds ++ " seconds"

/-- The standard output, given whether it is a terminal and how many seconds the run took. -/
def standardOutput (outcome : Outcome) (terminal : Bool) (seconds : Text) : Text :=
  delivered terminal (outcome.report ++ if outcome.timed then timeLine seconds ++ "\n" else [])

/-- The standard error, given whether it is a terminal. -/
def standardError (outcome : Outcome) (terminal : Bool) : Text :=
  outcome.log ++ delivered terminal outcome.complaint

/-- Nothing happened but a text on the standard output, after the given log. -/
def printed (tree : FileTree) (log report : Text) : Outcome :=
  { exitCode := 0, report, timed := false, log, complaint := [], tree, missing := none
    abort := none }

/-- The command failed, with the given log and complaint. -/
def failed (tree : FileTree) (log complaint : Text) : Outcome :=
  { exitCode := 1, report := [], timed := false, log, complaint, tree, missing := none
    abort := none }

/-- The run was ended before it came to a result, with the given log and report. -/
def aborted (tree : FileTree) (log report : Text) (abort : Abort) : Outcome :=
  { Outcome.failed tree log [] with report, abort := some abort }

/-- The run ends without a task. -/
def ended (tree : FileTree) (ending : Ending) : Outcome :=
  { exitCode := ending.exitCode, report := ending.report, timed := false, log := []
    complaint := ending.complaint, tree, missing := none, abort := ending.abort }

end Outcome

namespace Command

/-- The lines of a text that is printed. -/
def printLines (lines : List Text) : Text := lines.flatMap (· ++ "\n")

/-- The notes that are logged. -/
def logText (verbose : Bool) (notes : List Note) : Text :=
  printLines ((notes.filter (Note.isLogged verbose)).map Note.line)

/-- What is said about an error.  Nothing is said about one that ends the run. -/
def errorText (error : Error) : Text :=
  match error.stage? with
  | none => []
  | some stage => printLines [Text.capitalize stage.name ++ " error: " ++ error.message]

/-- The file that could not be loaded. -/
def missing? : Error → Option Location
  | .imports (.load _ location _) => some location
  | _ => none

/-- The outcome of an error. -/
def stopped (tree : FileTree) (log : Text) (error : Error) : Outcome :=
  { Outcome.failed tree log (errorText error) with
    missing := missing? error
    abort := error.abort? }

/-- Prints lines, as far as the standard output takes them. -/
def print (surroundings : Surroundings) (tree : FileTree) (log : Text) (lines : List Text) :
    Outcome :=
  match lines.find? fun line => !surroundings.prints line with
  | some line =>
    .aborted tree log (printLines (lines.takeWhile surroundings.prints)) (.unprintable line)
  | none => .printed tree log (printLines lines)

/-! ## Compiling -/

/-- The path of the output: as given, or that of the input with the suffix of style sheets.  An
output that is given as the empty text counts as none, and a path without a name has no place for a
suffix. -/
def outputPath (request : CompileRequest) : Except EmptyName Path :=
  match request.output.filter (· ≠ []) with
  | some path => .ok (Path.parse path)
  | none =>
    let input := Path.parse request.input
    if input.components = [] then .error ⟨input⟩ else .ok (input.withSuffix ".css")

/-- What is said about a file that cannot be written. -/
def writeFaultText (path : Text) (fault : AccessFault) : Text :=
  printLines ["Could not write " ++ path ++ ": [Errno " ++ Text.ofNat fault.number ++ "] " ++
    fault.message ++ ": " ++ Text.quoted path]

/-- The report of a compilation, but for the time. -/
def compileReport (request : CompileRequest) (output : Text) (compilation : Compilation) :
    List Text :=
  (if request.showFiles then
    "Used files:".toList :: compilation.files.map fun file => "  " ++ file.toText
  else []) ++
  (if request.showVariables then
    "Variables:".toList :: compilation.bindings.map fun (name, value) =>
      "  " ++ name ++ " = " ++ value
  else []) ++
  ["CSS content written to " ++ output,
    "Generated CSS classes: " ++ Text.ofNat compilation.ruleCount]

/-- Prints the report of a compilation.  The time is no part of the outcome, which only says that it
belongs there. -/
def report (surroundings : Surroundings) (tree : FileTree) (log : Text) (lines : List Text) :
    Outcome :=
  let outcome := print surroundings tree log (lines ++ [Outcome.timeLine surroundings.seconds])
  if outcome.abort.isSome then outcome
  else { outcome with report := printLines lines, timed := true }

/-- The notes of a compilation. -/
def compileNotes (tree : FileTree) (current : Location) (request : CompileRequest) (output : Text) :
    List Note :=
  match request.options.validate with
  | .error _ => []
  | .ok options => Trace.file options tree current request.input (some output)

/-- Compiles a file and writes the style sheet. -/
def compile (surroundings : Surroundings) (tree : FileTree) (current : Location) (verbose : Bool)
    (request : CompileRequest) : Outcome :=
  match outputPath request with
  | .error fault => .aborted tree [] [] (.emptyName fault)
  | .ok path =>
    let output := path.toText
    let log := logText verbose (compileNotes tree current request output)
    match Compile.file request.options tree current request.input (some output) with
    | .error error => stopped tree log error
    | .ok compilation =>
      match tree.write surroundings.stray current output compilation.css with
      | (.error (.path fault), tree) => .aborted tree log [] (.nullInPath fault)
      | (.error (.access fault), tree) => .failed tree log (writeFaultText output fault)
      | (.error (.encoding fault), tree) => .aborted tree log [] (.unencodable fault)
      | (.ok (), tree) =>
        report surroundings tree log (compileReport request output compilation)

/-! ## Listing tokens -/

/-- Lists the tokens of a file with everything that it builds on. -/
def tokens (surroundings : Surroundings) (tree : FileTree) (current : Location) (verbose : Bool)
    (request : TokensRequest) : Outcome :=
  let defaults : OptionTexts := {}
  let resolved := Bundle.resolve (Catalog.ofTree tree)
    (Compile.settings current (request.templatesDirectory.getD []) defaults.extension)
    (Path.parse request.input) none
  let notes := Trace.bundle resolved
  match resolved with
  | .error failure => stopped tree (logText verbose notes) (.imports failure.fault)
  | .ok progress =>
    let text := (Bundle.ofProgress progress).text
    let log := logText verbose (notes ++ Trace.tokens text)
    match Lexer.tokens text with
    | .error error => stopped tree log (.lexical error)
    | .ok tokens => print surroundings tree log (tokens.map Token.listing)

/-! ## Command lines -/

/-- Does what was asked for. -/
def perform (surroundings : Surroundings) (tree : FileTree) (current : Location) : Task → Outcome
  | .compile verbose request => compile surroundings tree current verbose request
  | .tokens verbose request => tokens surroundings tree current verbose request

/-- Runs a command line in a directory of a tree of files. -/
def runIn (surroundings : Surroundings) (tree : FileTree) (current : Location)
    (arguments : List Text) : Outcome :=
  match surroundings.reader tree current arguments with
  | .error ending => .ended tree ending
  | .ok task => perform surroundings tree current task

/-- Command lines are read by `Request.ofArguments`, every character has its encoding, and every
line can be printed. -/
def usual : Surroundings where
  reader := Request.reader
  stray _ := false
  prints _ := true
  seconds := []

/-- Runs a command line in the usual surroundings. -/
def run (tree : FileTree) (current : Location) (arguments : List Text) : Outcome :=
  runIn usual tree current arguments

end Command

end UtilityCss
