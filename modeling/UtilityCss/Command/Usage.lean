import UtilityCss.Command.Request

/-!
# Usage texts

The help of each command, and what is said about a command line that cannot be used.  With them
`Request.ofArguments` becomes a `Reader`.
-/

namespace UtilityCss

/-- Lines as one text. -/
def Text.lines (lines : List String) : Text := lines.flatMap fun line => line.toList ++ "\n".toList

namespace Topic

/-- How a command is written. -/
def synopsis : Topic → Text
  | .program => "luic"
  | .compile => "luic compile"
  | .tokens => "luic tokens"

/-- The arguments of a command in short. -/
def signature : Topic → Text
  | .program => "[OPTIONS] COMMAND [ARGS]..."
  | .compile => "[OPTIONS] INPUT_FILE [OUTPUT_FILE]"
  | .tokens => "[OPTIONS] INPUT_FILE"

/-- The usage line of a command. -/
def usage (topic : Topic) : Text := "Usage: " ++ topic.synopsis ++ " " ++ topic.signature ++ "\n"

/-- What a command does, and its options. -/
def description : Topic → Text
  | .program => Text.lines [
      "  luic - compile LUI stylesheets to plain CSS.",
      "",
      "Options:",
      "  --version      Show the version and exit.",
      "  -v, --verbose  Log pipeline details to stderr",
      "  --help         Show this message and exit.",
      "",
      "Commands:",
      "  compile  Compile INPUT_FILE and its imports into one CSS file.",
      "  tokens   Resolve INPUT_FILE's imports and print one token per line."]
  | .compile => Text.lines [
      "  Compile INPUT_FILE and its imports into one CSS file.",
      "",
      "  OUTPUT_FILE defaults to INPUT_FILE with a .css suffix.",
      "",
      "Options:",
      "  --class-format [minimalistic|standard|full-name|bootstrap]",
      "                                  How class names are built  [default:",
      "                                  minimalistic]",
      "  --mode [minimalistic|standard|pretty]",
      "                                  Output layout  [default: standard]",
      "  --layers / --no-layers          Wrap each source file in @layer",
      "  --mobile-first                  Emit min-width instead of max-width media",
      "                                  queries",
      "  --templates-dir DIRECTORY       Root for TEMPLATE imports [default:",
      "                                  ./assets]",
      "  --show-variables                Print the variables defined by the sources",
      "  --show-files                    Print every source file that was used",
      "  --help                          Show this message and exit."]
  | .tokens => Text.lines [
      "  Resolve INPUT_FILE's imports and print one token per line.",
      "",
      "Options:",
      "  --templates-dir DIRECTORY  Root for TEMPLATE imports [default: ./assets]",
      "  --help                     Show this message and exit."]

/-- The help of a command. -/
def help (topic : Topic) : Text := topic.usage ++ "\n" ++ topic.description

end Topic

/-- What is said about a command line that cannot be used.  An empty one is answered with the
help. -/
def Topic.misuse (topic : Topic) : UsageCause → Text
  | .nothing => topic.help
  | cause =>
    topic.usage ++ "Try '" ++ topic.synopsis ++ " --help' for help.\n\nError: " ++
      cause.message ++ "\n"

/-- How a run ends whose command line is refused. -/
def Rejection.ending (rejection : Rejection) : Ending :=
  match rejection.refusal with
  | .misuse cause =>
    { exitCode := 2, report := [], complaint := rejection.topic.misuse cause, abort := none }
  | .path fault =>
    { exitCode := 1, report := [], complaint := [], abort := some (.nullInPath fault) }

namespace Request

/-- The version of the program. -/
def versionText : Text := "0.3.0"

/-- A run that ends with a text on the standard output. -/
def printed (report : Text) : Ending := { exitCode := 0, report, complaint := [], abort := none }

/-- Reads command lines by `Request.ofArguments`. -/
def reader : Reader := fun tree current arguments =>
  match ofArguments tree current arguments with
  | .error rejection => .error rejection.ending
  | .ok .version => .error (printed ("luic, version " ++ versionText ++ "\n"))
  | .ok (.help topic) => .error (printed topic.help)
  | .ok (.task wanted) => .ok wanted

end Request

end UtilityCss
