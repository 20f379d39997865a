import UtilityCss.Error
import UtilityCss.Sheet.Generate
import UtilityCss.Statement.Program

/-!
# Compilation

`Compile.source` compiles one text against a store of variables and `Compile.file` compiles a file
with everything that it builds on.  Options are checked first; then the text is read, interpreted
and written as CSS, and the first error ends it.  The store is returned in either case: a program
that is refused keeps the definitions before the refusal, and one that cannot be written keeps all
of its own.
-/

namespace UtilityCss

/-- What a compilation gives. -/
structure Compilation where
  css : Text
  records : List Record
  tokens : List Token
  /-- The variables with their values. -/
  bindings : List (Text × Text)
  files : List Location
deriving DecidableEq, Repr

/-- The number of rules. -/
def Compilation.ruleCount (compilation : Compilation) : Nat :=
  (compilation.records.filter Record.isRule).length

namespace Compile

/-- Compiles a text with options that were checked. -/
def checked (options : Options) (store : Store) (source : Text) :
    Except Error Compilation × Store :=
  match Lexer.tokens source with
  | .error error => (.error (.lexical error), store)
  | .ok tokens =>
    match Program.parse store tokens with
    | (.error fault, store) => (.error (.semantic fault), store)
    | (.ok records, store) =>
      match Sheet.generate options.style records with
      | .error fault => (.error (.render fault), store)
      | .ok css => (.ok { css, records, tokens, bindings := store.all, files := [] }, store)

/-- Compiles a text. -/
def source (options : OptionTexts) (store : Store) (source : Text) :
    Except Error Compilation × Store :=
  match options.validate with
  | .error fault => (.error (.options fault), store)
  | .ok options => checked options store source

/-- The settings for bundling, in a current directory. -/
def settings (current : Location) (templatesDirectory extension : Text) : Settings where
  current
  templates := Path.parse (if templatesDirectory = [] then "assets".toList else templatesDirectory)
  extension

/-- The name of the layer for the output: the stem of its path, if there is one. -/
def outputLayer (output : Option Text) : Option Text :=
  (output.filter (· ≠ [])).map fun path => layerName (Path.parse path).stem

/-- Bundles the entry file with everything that it builds on. -/
def bundle (options : Options) (tree : FileTree) (current : Location) (entry : Text)
    (output : Option Text) : Except Failure Progress :=
  Bundle.resolve (Catalog.ofTree tree)
    (settings current options.templatesDirectory options.extension)
    (Path.parse entry) (outputLayer output)

/-- Compiles a file with everything that it builds on.  Its own layer is named after the output, if
one is given. -/
def file (options : OptionTexts) (tree : FileTree) (current : Location) (entry : Text)
    (output : Option Text) : Except Error Compilation :=
  match options.validate with
  | .error fault => .error (.options fault)
  | .ok options =>
    match bundle options tree current entry output with
    | .error failure => .error (.imports failure.fault)
    | .ok progress =>
      let bundle := Bundle.ofProgress progress
      (checked options .empty bundle.text).1.map fun compilation =>
        { compilation with files := bundle.files }

/-- Reads, interprets and writes a text with a style that is only looked up in the end. -/
def pipeline (source format mode : Text) (layers mobileFirst : Bool) : Except Error Text :=
  match Lexer.tokens source with
  | .error error => .error (.lexical error)
  | .ok tokens =>
    match (Program.parse .empty tokens).1 with
    | .error fault => .error (.semantic fault)
    | .ok records =>
      match Style.ofNames format mode layers mobileFirst with
      | .error fault => .error (.style fault)
      | .ok style =>
        match Sheet.generate style records with
        | .error fault => .error (.render fault)
        | .ok css => .ok css

end Compile

end UtilityCss
