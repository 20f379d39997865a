import UtilityCss.Record.Basic

/-!
# Listing tokens and records

Tokens and records are listed for the reader of a log by their name and fields,
`Keyword(name='ADD')`.  Texts stand between quotes, a field that is absent reads `None`, and one of
a fixed choice of values is written with its family and its name.
-/

namespace UtilityCss

namespace Display

/-- A name with its fields. -/
def record (name : Text) (fields : List (Text × Text)) : Text :=
  name ++ "(" ++ Text.join ", " (fields.map fun (label, value) => label ++ "=" ++ value) ++ ")"

/-- A text that may be absent. -/
def optional : Option Text → Text
  | none => "None"
  | some text => Text.quoted text

/-- One of a fixed choice of values. -/
def choice (family name : Text) : Text :=
  "<" ++ family ++ "." ++ name ++ ": " ++ Text.quoted name ++ ">"

/-- Texts in brackets.  A comma follows the only one, to tell it from a text in brackets. -/
def sequence : List Text → Text
  | [text] => "(" ++ Text.quoted text ++ ",)"
  | texts => "(" ++ Text.join ", " (texts.map Text.quoted) ++ ")"

end Display

/-- A literal as it is listed: a text between quotes, a number as it is. -/
def Scalar.display : Scalar → Text
  | .text content => Text.quoted content
  | number => number.toText

/-- An end of a layer as it is listed. -/
def Edge.display (edge : Edge) : Text := Display.choice "Edge" edge.name

/-- A visibility as it is listed. -/
def Visibility.display (visibility : Visibility) : Text :=
  Display.choice "Visibility" visibility.name

/-- A kind of symbol as it is listed. -/
def SymbolKind.display (kind : SymbolKind) : Text := Display.choice "TokenKind" kind.name

/-- A token as it is listed. -/
def Token.display : Token → Text
  | .keyword name => Display.record "Keyword" [("name", Text.quoted name)]
  | .property name => Display.record "Property" [("name", Text.quoted name)]
  | .identifier name => Display.record "Identifier" [("name", Text.quoted name)]
  | .value literal => Display.record "Value" [("literal", literal.display)]
  | .valueType unit => Display.record "ValueType" [("unit", Text.quoted unit)]
  | .variable name => Display.record "Variable" [("name", Text.quoted name)]
  | .variableRef name unit =>
    Display.record "VariableRef" [("name", Text.quoted name), ("unit", Display.optional unit)]
  | .mediaValue literal => Display.record "MediaValue" [("literal", Text.quoted literal)]
  | .mediaVariableRef name => Display.record "MediaVariableRef" [("name", Text.quoted name)]
  | .pseudoClass name => Display.record "PseudoClass" [("name", Text.quoted name)]
  | .comment visibility text =>
    Display.record "Comment" [("visibility", visibility.display), ("text", Text.quoted text)]
  | .layer name edge =>
    Display.record "LayerMarker" [("name", Text.quoted name), ("edge", edge.display)]
  | .symbol kind char =>
    Display.record "Symbol" [("kind", kind.display), ("char", Text.quoted char)]

/-- A line of a listing: the class of a token in a column of twenty characters, and the token. -/
def Token.listing (token : Token) : Text := token.kind.name.padRight 20 ++ " " ++ token.display

/-- A declaration as it is listed. -/
def Declaration.display (declaration : Declaration) : Text :=
  Display.record "Declaration" [
    ("property", Text.quoted declaration.property),
    ("values", Display.sequence declaration.values),
    ("optional_name", Display.optional declaration.optionalName),
    ("pseudo_class", Display.optional declaration.pseudoClass),
    ("media", Display.optional declaration.media)]

/-- A record as it is listed. -/
def Record.display : Record → Text
  | .rule declaration => declaration.display
  | .comment text => Display.record "CommentRecord" [("text", Text.quoted text)]
  | .layer name edge =>
    Display.record "LayerRecord" [("name", Text.quoted name), ("edge", edge.display)]

end UtilityCss
