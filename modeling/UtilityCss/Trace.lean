import UtilityCss.Compile
import UtilityCss.Display

/-!
# The trace of a compilation

A compilation can be followed by its notes: which files were read, how many tokens and records there
were, which variables were defined.  A note for a media variable that is not defined is a warning;
all others are details.

The notes of a stage are a function of what the stage was given, in the order in which things happen
there, so the trace of a compilation is that of its stages one after the other, up to the one that
refused (`Trace.file`).
-/

namespace UtilityCss

/-- How much a note matters. -/
inductive Level
  | detail
  | warning
deriving DecidableEq, Repr

/-- The name of a level. -/
def Level.name : Level → Text
  | .detail => "DEBUG"
  | .warning => "WARNING"

/-- Something that happened. -/
inductive Note
  /-- A file was read. -/
  | read (location : Location) (characters : Nat)
  /-- A file was met that is in the bundle already. -/
  | skipped (location : Location)
  /-- A file was bundled with those that it builds on. -/
  | bundled (entry : Location) (files : Nat)
  /-- A text was read as tokens. -/
  | tokenized (characters tokens : Nat)
  /-- A media condition names a variable that is not defined. -/
  | undefinedMedia (name : Text)
  /-- A variable was defined. -/
  | defined (name value : Text)
  /-- A record was dropped because it repeats another. -/
  | repeated (record : Record)
  /-- Tokens were interpreted as records. -/
  | parsed (tokens records : Nat)
  /-- A style sheet was laid out. -/
  | generated (rules groups : Nat)
  /-- A style sheet was written. -/
  | compiled (records characters : Nat)
deriving DecidableEq, Repr

namespace Note

/-- How much a note matters. -/
def level : Note → Level
  | .undefinedMedia _ => .warning
  | _ => .detail

/-- The part of the program that a note comes from. -/
def topic : Note → Text
  | .read _ _ => "luic.resolver"
  | .skipped _ => "luic.resolver"
  | .bundled _ _ => "luic.resolver"
  | .tokenized _ _ => "luic.tokenizer.tokenizer"
  | .undefinedMedia _ => "luic.parser.parser"
  | .defined _ _ => "luic.store"
  | .repeated _ => "luic.parser.parser"
  | .parsed _ _ => "luic.parser.parser"
  | .generated _ _ => "luic.stylist.generator"
  | .compiled _ _ => "luic.compiler"

/-- The wording of a note. -/
def message : Note → Text
  | .read location characters =>
    "read " ++ location.toText ++ " (" ++ Text.ofNat characters ++ " bytes)"
  | .skipped location => "skipping " ++ location.toText ++ ", already inlined"
  | .bundled entry files =>
    "resolved " ++ entry.toText ++ " from " ++ Text.ofNat files ++ " file(s)"
  | .tokenized characters tokens =>
    "tokenized " ++ Text.ofNat characters ++ " characters into " ++ Text.ofNat tokens ++ " tokens"
  | .undefinedMedia name => "media variable " ++ name ++ " is not defined; condition dropped"
  | .defined name value => "defined variable " ++ name ++ " = " ++ value
  | .repeated record => "dropping duplicate record " ++ record.display
  | .parsed tokens records =>
    "parsed " ++ Text.ofNat tokens ++ " token(s) into " ++ Text.ofNat records ++ " record(s)"
  | .generated rules groups =>
    "generated " ++ Text.ofNat rules ++ " rule(s) in " ++ Text.ofNat groups ++ " media group(s)"
  | .compiled records characters =>
    "compiled " ++ Text.ofNat records ++ " record(s) into " ++ Text.ofNat characters ++
      " byte(s) of CSS"

/-- A note as it is logged. -/
def line (note : Note) : Text :=
  note.level.name ++ " " ++ note.topic ++ ": " ++ note.message

/-- Is the note logged?  Details are only if they were asked for. -/
def isLogged (verbose : Bool) (note : Note) : Bool := verbose || note.level = .warning

end Note

namespace Trace

/-! ## Bundling -/

/-- The note of a step of bundling. -/
def visit : Visit → Note
  | .entered location text => .read location text.length
  | .skipped location => .skipped location

/-- The note of a finished bundle, which names the file that was entered first. -/
def bundled : List Location → List Note
  | [] => []
  | entry :: others => [.bundled entry (others.length + 1)]

/-- The notes of bundling a file. -/
def bundle : Except Failure Progress → List Note
  | .error failure => failure.progress.visits.map visit
  | .ok progress => progress.visits.map visit ++ bundled (Bundle.ofProgress progress).files

/-! ## Interpreting -/

/-- The variable of a media condition that is dropped from a line because it is not defined. -/
def undefinedMedia? (store : Store) : List Token → Option Text
  | .layer _ _ :: _ => none
  | .comment .hidden _ :: _ => none
  | line => do
    let name ← (Statement.keyword line).toOption
    guard (name = "ADD")
    let addition ← (Statement.addition store line).toOption
    (← addition.media).undefined? store

/-- The notes of a line. -/
def line (store : Store) (line : List Token) : List Note :=
  match undefinedMedia? store line, Statement.interpret store line with
  | some name, _ => [.undefinedMedia name]
  | none, .ok ⟨_, some assignment⟩ =>
    [.defined assignment.name (Slot.renderAll assignment.slots none)]
  | none, _ => []

/-- The notes of lines in order, up to the first that is refused. -/
def lines (store : Store) : List (List Token) → List Note
  | [] => []
  | first :: rest =>
    line store first ++
      match Statement.interpret store first with
      | .error _ => []
      | .ok effect => lines (effect.store store) rest

/-- The notes of interpreting tokens. -/
def program (store : Store) (tokens : List Token) : List Note :=
  lines store (Line.group tokens) ++
    match (Program.run store (Line.group tokens)).1 with
    | .error _ => []
    | .ok records =>
      (Record.repeated records).map .repeated ++
        [.parsed tokens.length (Record.tidy records).length]

/-! ## Writing -/

/-- The notes of writing records as a style sheet. -/
def sheet (style : Style) (records : List Record) : List Note :=
  match Sheet.items style records, Sheet.generate style records with
  | .ok items, .ok css =>
    [.generated (records.filter Record.isRule).length (Sheet.groups items).length,
      .compiled records.length css.length]
  | _, _ => []

/-! ## Compiling -/

/-- The notes of reading a text as tokens. -/
def tokens (source : Text) : List Note :=
  match Lexer.tokens source with
  | .error _ => []
  | .ok tokens => [.tokenized source.length tokens.length]

/-- The notes of compiling a text. -/
def source (style : Style) (store : Store) (source : Text) : List Note :=
  tokens source ++
    match Lexer.tokens source with
    | .error _ => []
    | .ok tokens =>
      program store tokens ++
        match (Program.parse store tokens).1 with
        | .error _ => []
        | .ok records => sheet style records

/-- The notes of compiling a file. -/
def file (options : Options) (tree : FileTree) (current : Location) (entry : Text)
    (output : Option Text) : List Note :=
  let resolved := Compile.bundle options tree current entry output
  bundle resolved ++
    match resolved with
    | .error _ => []
    | .ok progress => source options.style .empty (Bundle.ofProgress progress).text

end Trace

end UtilityCss
