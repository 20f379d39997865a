import UtilityCss.Slot

/-!
# Tokens

A source is read as a flat list of tokens.  Structural tokens (line ends, commas, the equals sign,
braces, and any character that means nothing to the language) are `Token.symbol`s; only their kind
matters, and the character is kept for those that are unknown.

`TokenKind` names the class of a token.  `Token.structural` builds a symbol from a class and refuses
the classes that are not structural.
-/

namespace UtilityCss

/-- Whether a comment is copied into the style sheet. -/
inductive Visibility
  | shown
  | hidden
deriving DecidableEq, Repr

/-- Which end of a layer a marker stands for. -/
inductive Edge
  | start
  | stop
deriving DecidableEq, Repr

/-- The kinds of structural tokens. -/
inductive SymbolKind
  | leftBrace
  | rightBrace
  | leftBracket
  | rightBracket
  | comma
  | equals
  | newline
  | unknown
deriving DecidableEq, Repr

/-- The classes of tokens. -/
inductive TokenKind
  | keyword
  | property
  | identifier
  | value
  | valueType
  | variable
  | variableRef
  | mediaValue
  | mediaVariableRef
  | pseudoClass
  | comment
  | layer
  | symbol (kind : SymbolKind)
deriving DecidableEq, Repr

/-- The units of a source. -/
inductive Token
  /-- A word that opens a statement. -/
  | keyword (name : Text)
  /-- The property that a statement sets. -/
  | property (name : Text)
  /-- A suffix that expands the property. -/
  | identifier (name : Text)
  /-- A literal. -/
  | value (literal : Scalar)
  /-- A unit that stands on its own. -/
  | valueType (unit : Text)
  /-- A bare name. -/
  | variable (name : Text)
  /-- The value of a variable, with an optional unit that overrides its own. -/
  | variableRef (name : Text) (unit : Option Text)
  /-- A media width. -/
  | mediaValue (literal : Text)
  /-- A media width that is the value of a variable. -/
  | mediaVariableRef (name : Text)
  /-- A pseudo-class with its colon and its argument. -/
  | pseudoClass (name : Text)
  /-- A comment up to the end of its line. -/
  | comment (visibility : Visibility) (text : Text)
  /-- The start or the end of a layer. -/
  | layer (name : Text) (edge : Edge)
  /-- A structural token. -/
  | symbol (kind : SymbolKind) (char : Text)
deriving DecidableEq, Repr

namespace Token

/-- A line end. -/
def newline : Token := .symbol .newline []

/-- The equals sign. -/
def equals : Token := .symbol .equals []

/-- The class of a token. -/
def kind : Token → TokenKind
  | .keyword _ => .keyword
  | .property _ => .property
  | .identifier _ => .identifier
  | .value _ => .value
  | .valueType _ => .valueType
  | .variable _ => .variable
  | .variableRef _ _ => .variableRef
  | .mediaValue _ => .mediaValue
  | .mediaVariableRef _ => .mediaVariableRef
  | .pseudoClass _ => .pseudoClass
  | .comment _ _ => .comment
  | .layer _ _ => .layer
  | .symbol kind _ => .symbol kind

end Token

/-! ## Names -/

/-- The name of a kind of symbol. -/
def SymbolKind.name : SymbolKind → Text
  | .leftBrace => "LEFT_BRACE"
  | .rightBrace => "RIGHT_BRACE"
  | .leftBracket => "LEFT_BRACKET"
  | .rightBracket => "RIGHT_BRACKET"
  | .comma => "COMMA"
  | .equals => "EQUALS"
  | .newline => "NEWLINE"
  | .unknown => "UNKNOWN"

/-- The name of a class of tokens. -/
def TokenKind.name : TokenKind → Text
  | .keyword => "KEYWORD"
  | .property => "PROPERTY"
  | .identifier => "IDENTIFIER"
  | .value => "VALUE"
  | .valueType => "VALUE_TYPE"
  | .variable => "VARIABLE"
  | .variableRef => "VARIABLE_REF"
  | .mediaValue => "MEDIA_VALUE"
  | .mediaVariableRef => "MEDIA_VARIABLE_REF"
  | .pseudoClass => "PSEUDO_CLASS"
  | .comment => "COMMENT"
  | .layer => "LAYER"
  | .symbol kind => kind.name

/-- Every class of tokens. -/
def TokenKind.all : List TokenKind :=
  [.keyword, .property, .identifier, .value, .valueType, .variable, .variableRef, .mediaValue,
    .mediaVariableRef, .pseudoClass, .comment, .layer, .symbol .leftBrace, .symbol .rightBrace,
    .symbol .leftBracket, .symbol .rightBracket, .symbol .comma, .symbol .equals, .symbol .newline,
    .symbol .unknown]

/-- The class of tokens with a given name. -/
def TokenKind.ofName? (name : Text) : Option TokenKind := TokenKind.all.find? (·.name = name)

/-- The name of an end of a layer, as it is written in a marker. -/
def Edge.name : Edge → Text
  | .start => "START"
  | .stop => "END"

/-- The end of a layer that a word names. -/
def Edge.ofName? (name : Text) : Option Edge :=
  if name = Edge.name .start then some .start
  else if name = Edge.name .stop then some .stop
  else none

/-- The name of a visibility. -/
def Visibility.name : Visibility → Text
  | .shown => "PUBLIC"
  | .hidden => "PRIVATE"

/-! ## Building structural tokens -/

/-- A class of tokens that is not structural. -/
structure NotStructural where
  kind : TokenKind
deriving DecidableEq, Repr

/-- The wording for a class that is not structural. -/
def NotStructural.message (e : NotStructural) : Text := e.kind.name ++ " is not a structural token"

/-- A structural token of the given class. -/
def Token.structural (kind : TokenKind) (char : Text) : Except NotStructural Token :=
  match kind with
  | .symbol kind => .ok (.symbol kind char)
  | other => .error ⟨other⟩

end UtilityCss
