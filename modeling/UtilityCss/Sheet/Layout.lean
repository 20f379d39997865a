import UtilityCss.Text.Blank

/-!
# The layout of a style sheet

A style sheet is a list of `Entry`s, and a `Mode` writes them down: on one line, indented by two
blanks, or indented by four with an empty line between the entries.  The mode decides about blanks
and line ends, and about the semicolon after a declaration; what the entries say is settled before.
-/

namespace UtilityCss

/-- How a style sheet is laid out. -/
inductive Mode
  | minimalistic
  | standard
  | pretty
deriving DecidableEq, Repr

namespace Mode

/-- Every mode. -/
def all : List Mode := [.minimalistic, .standard, .pretty]

/-- The name of a mode. -/
def name : Mode → Text
  | .minimalistic => "minimalistic"
  | .standard => "standard"
  | .pretty => "pretty"

/-- The mode with a given name. -/
def ofName? (text : Text) : Option Mode := all.find? (·.name = text)

/-- One level of indentation. -/
def step : Mode → Text
  | .minimalistic => ""
  | .standard => "  "
  | .pretty => "    "

/-- What stands between entries. -/
def separator : Mode → Text
  | .minimalistic => ""
  | .standard => "\n"
  | .pretty => "\n\n"

/-- The indentation at a depth. -/
def indent (mode : Mode) (depth : Nat) : Text := Text.times depth mode.step

end Mode

/-- A selector and the one property that it sets. -/
structure Rule where
  selector : Text
  property : Text
  value : Text
deriving DecidableEq, Repr

/-- The rule as a block. -/
def Rule.render (mode : Mode) (depth : Nat) (rule : Rule) : Text :=
  let indent := mode.indent depth
  match mode with
  | .minimalistic =>
    indent ++ rule.selector ++ ['{'] ++ rule.property ++ ":" ++ rule.value ++ ['}']
  | _ =>
    indent ++ rule.selector ++ [' ', '{', '\n'] ++
      indent ++ mode.step ++ rule.property ++ ": " ++ rule.value ++ ";\n" ++
      indent ++ ['}']

/-- What a style sheet consists of.  Entries inside layers know how many of them are open. -/
inductive Entry
  /-- The order of the layers. -/
  | layerOrder (names : List Text)
  | comment (depth : Nat) (text : Text)
  | openLayer (depth : Nat) (name : Text)
  | closeLayer (depth : Nat)
  | rule (depth : Nat) (block : Rule)
  /-- The rules under a media condition. -/
  | media (condition : Text) (rules : List Rule)
deriving DecidableEq, Repr

/-- The text of an entry. -/
def Entry.render (mode : Mode) : Entry → Text
  | .layerOrder names => "@layer " ++ Text.join ", " names ++ ";"
  | .comment depth text => mode.indent depth ++ "/* " ++ text ++ " */"
  | .openLayer depth name => mode.indent depth ++ "@layer " ++ name ++ [' ', '{']
  | .closeLayer depth => mode.indent depth ++ ['}']
  | .rule depth block => block.render mode depth
  | .media condition rules =>
    let content := Text.join mode.separator (rules.map (Rule.render mode 1))
    match mode with
    | .minimalistic => "@media " ++ condition ++ ['{'] ++ content ++ ['}']
    | _ => "@media " ++ condition ++ [' ', '{', '\n'] ++ content ++ ['\n', '}']

/-- The text of a style sheet. -/
def Entry.renderAll (mode : Mode) (entries : List Entry) : Text :=
  Text.trim (Text.join mode.separator (entries.map (Entry.render mode)))

end UtilityCss
