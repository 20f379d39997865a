import UtilityCss.Command.Arguments
import UtilityCss.Command.Task

/-!
# A reader of command lines

A `Request` is a task, or a text that is asked for in place of one.  `Request.ofArguments` reads the
options in front of the command, finds the command, reads its own arguments and checks them: the
formats and modes that are named exist, the input is a file, the output is no directory, and the
templates are in no file.

Asking for help or for the version counts as soon as the arguments around it can be read, before
anything else is checked.  The options are checked first, in the order in which they were given,
then the input, the output, and that nothing is left over.
-/

namespace UtilityCss

/-- The command that a usage text is about. -/
inductive Topic
  | program
  | compile
  | tokens
deriving DecidableEq, Repr

/-- What a command line asks for. -/
inductive Request
  | version
  | help (topic : Topic)
  | task (task : Task)
deriving DecidableEq, Repr

/-- Why a command line asks for nothing that can be done. -/
inductive UsageCause
  /-- There are no arguments at all. -/
  | nothing
  | missingCommand
  | unknownCommand (name : Text)
  | arguments (fault : ArgumentFault)
  | missingArgument (name : Text)
  | surplusArguments (words : List Text)
  | unknownChoice (option value : Text) (choices : List Text)
  | inputNotFound (path : Text)
  | inputIsDirectory (path : Text)
  | outputIsDirectory (path : Text)
  | templatesAreFile (path : Text)
deriving DecidableEq, Repr

/-- Why a command line is refused. -/
inductive Refusal
  /-- It cannot be used. -/
  | misuse (cause : UsageCause)
  /-- One of its paths cannot be looked at, which ends the run. -/
  | path (fault : NullInPath)
deriving DecidableEq, Repr

/-- A refusal and the command that it is about. -/
structure Rejection where
  topic : Topic
  refusal : Refusal
deriving DecidableEq, Repr

/-- The wording of a cause. -/
def UsageCause.message : UsageCause → Text
  | .nothing => ""
  | .missingCommand => "Missing command."
  | .unknownCommand name => "No such command " ++ Text.quoted name ++ "."
  | .arguments fault => fault.message
  | .missingArgument name => "Missing argument '" ++ name ++ "'."
  | .surplusArguments words =>
    (if words.length = 1 then "Got unexpected extra argument (".toList
      else "Got unexpected extra arguments (".toList) ++
    Text.join " " words ++ ")"
  | .unknownChoice option value choices =>
    "Invalid value for '" ++ option ++ "': " ++ Text.quoted value ++ " is not one of " ++
      Text.join ", " (choices.map Text.quoted) ++ "."
  | .inputNotFound path =>
    "Invalid value for 'INPUT_FILE': File " ++ Text.quoted path ++ " does not exist."
  | .inputIsDirectory path =>
    "Invalid value for 'INPUT_FILE': File " ++ Text.quoted path ++ " is a directory."
  | .outputIsDirectory path =>
    "Invalid value for '[OUTPUT_FILE]': File " ++ Text.quoted path ++ " is a directory."
  | .templatesAreFile path =>
    "Invalid value for '--templates-dir': Directory " ++ Text.quoted path ++ " is a file."

namespace Request

/-! ## Grammars -/

/-- The options in front of the command. -/
def programGrammar : Grammar where
  long := [("--version", false), ("--verbose", false), ("--help", false)]
  short := [('v', "--verbose")]
  interspersed := false

/-- The options of a compilation. -/
def compileGrammar : Grammar where
  long := [("--class-format", true), ("--mode", true), ("--layers", false), ("--no-layers", false),
    ("--mobile-first", false), ("--templates-dir", true), ("--show-variables", false),
    ("--show-files", false), ("--help", false)]
  short := []
  interspersed := true

/-- The options of a listing of tokens. -/
def tokensGrammar : Grammar where
  long := [("--templates-dir", true), ("--help", false)]
  short := []
  interspersed := true

/-! ## Checks -/

/-- What stands at the end of a path that was given, if anything does. -/
def node? (tree : FileTree) (current : Location) (path : Text) : Except Refusal (Option Node) :=
  if '\x00' ∈ path then .error (.path {})
  else
    match tree.find current path with
    | .error _ => .ok none
    | .ok (_, node) => .ok (some node)

/-- The input has to be a file. -/
def checkInput (tree : FileTree) (current : Location) (path : Text) : Except Refusal Unit := do
  match ← node? tree current path with
  | none => .error (.misuse (.inputNotFound path))
  | some .directory => .error (.misuse (.inputIsDirectory path))
  | some (.file _) => .ok ()

/-- The output cannot be a directory. -/
def checkOutput (tree : FileTree) (current : Location) (path : Text) : Except Refusal Unit := do
  match ← node? tree current path with
  | some .directory => .error (.misuse (.outputIsDirectory path))
  | _ => .ok ()

/-- The directory of templates cannot be a file. -/
def checkTemplates (tree : FileTree) (current : Location) (path : Text) :
    Except Refusal Unit := do
  match ← node? tree current path with
  | some (.file _) => .error (.misuse (.templatesAreFile path))
  | _ => .ok ()

/-- The value of an option has to be one of a list of names. -/
def checkChoice (option value : Text) (names : List Text) : Except Refusal Unit :=
  if value ∈ names then .ok () else .error (.misuse (.unknownChoice option value names))

/-- The value that an option was given last has to suit it. -/
def checkOption (tree : FileTree) (current : Location) (arguments : Arguments) (option : Text) :
    Except Refusal Unit :=
  let value := (arguments.value? option).getD []
  if option = "--class-format" then
    checkChoice option value (ClassNameFormat.all.map ClassNameFormat.name)
  else if option = "--mode" then checkChoice option value (Mode.all.map Mode.name)
  else if option = "--templates-dir" then checkTemplates tree current value
  else .ok ()

/-- Checks the options in the order in which they were given. -/
def checkOptions (tree : FileTree) (current : Location) (arguments : Arguments) :
    Except Refusal Unit :=
  arguments.options.forM fun (option, _) => checkOption tree current arguments option

/-- There have to be at most `count` words. -/
def checkSurplus (arguments : Arguments) (count : Nat) : Except Refusal Unit :=
  if arguments.words.length ≤ count then .ok ()
  else .error (.misuse (.surplusArguments (arguments.words.drop count)))

/-- The first word, which is the input. -/
def inputOf (arguments : Arguments) : Except Refusal Text :=
  match arguments.words with
  | [] => .error (.misuse (.missingArgument "INPUT_FILE"))
  | input :: _ => .ok input

/-! ## Commands -/

/-- A compilation with the given arguments. -/
def ofCompile (tree : FileTree) (current : Location) (arguments : Arguments) :
    Except Refusal CompileRequest := do
  checkOptions tree current arguments
  let input ← inputOf arguments
  checkInput tree current input
  let output := arguments.words[1]?
  output.forM (checkOutput tree current)
  checkSurplus arguments 2
  let defaults : OptionTexts := {}
  .ok {
    input
    output
    classNameFormat := (arguments.value? "--class-format").getD defaults.classNameFormat
    mode := (arguments.value? "--mode").getD defaults.mode
    layers := arguments.flag "--layers" "--no-layers"
    mobileFirst := arguments.has "--mobile-first"
    templatesDirectory := arguments.value? "--templates-dir"
    showVariables := arguments.has "--show-variables"
    showFiles := arguments.has "--show-files" }

/-- A listing of tokens with the given arguments. -/
def ofTokens (tree : FileTree) (current : Location) (arguments : Arguments) :
    Except Refusal TokensRequest := do
  checkOptions tree current arguments
  let input ← inputOf arguments
  checkInput tree current input
  checkSurplus arguments 1
  .ok { input, templatesDirectory := arguments.value? "--templates-dir" }

/-- The request of a command: its arguments are read by its grammar, and unless they ask for help
they make a request. -/
def ofCommand (topic : Topic) (grammar : Grammar) (arguments : List Text)
    (make : Arguments → Except Refusal Request) : Except Rejection Request :=
  match grammar.scan arguments with
  | .error fault => .error ⟨topic, .misuse (.arguments fault)⟩
  | .ok arguments =>
    if arguments.has "--help" then .ok (.help topic)
    else (make arguments).mapError (⟨topic, ·⟩)

/-- The request for help or for the version among the options in front of the command, whichever was
given first. -/
def immediate? (arguments : Arguments) : Option Request :=
  arguments.options.findSome? fun (option, _) =>
    if option = "--version" then some .version
    else if option = "--help" then some (.help .program)
    else none

/-- Reads the options in front of the command. -/
def scanProgram (arguments : List Text) : Except Rejection Arguments :=
  (programGrammar.scan arguments).mapError fun fault => ⟨.program, .misuse (.arguments fault)⟩

/-- The request of the words that are left when the options in front of the command were read.  If
the first of them is no command, it may still be an option that asks for help or for the version. -/
def ofWords (tree : FileTree) (current : Location) (verbose : Bool) :
    List Text → Except Rejection Request
  | [] => .error ⟨.program, .misuse .missingCommand⟩
  | name :: arguments =>
    if name = "compile" then
      ofCommand .compile compileGrammar arguments fun arguments =>
        (ofCompile tree current arguments).map (.task ∘ .compile verbose)
    else if name = "tokens" then
      ofCommand .tokens tokensGrammar arguments fun arguments =>
        (ofTokens tree current arguments).map (.task ∘ .tokens verbose)
    else
      match scanProgram (name :: arguments) with
      | .error rejection => .error rejection
      | .ok options =>
        match immediate? options with
        | some request => .ok request
        | none => .error ⟨.program, .misuse (.unknownCommand name)⟩

/-- What a command line asks for. -/
def ofArguments (tree : FileTree) (current : Location) (arguments : List Text) :
    Except Rejection Request :=
  if arguments = [] then .error ⟨.program, .misuse .nothing⟩
  else
    match scanProgram arguments with
    | .error rejection => .error rejection
    | .ok options =>
      match immediate? options with
      | some request => .ok request
      | none => ofWords tree current (options.has "--verbose") options.words

end Request

end UtilityCss
