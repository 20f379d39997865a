import UtilityCss.Machine.Cursor

/-!
# The scanner

The readers of `Lexer`, written for a cursor.  Each begins at the first character of its construct,
looks ahead before it moves, and cuts the text that it passed out of the source.  Nothing in their
types keeps them from moving beyond the end, from reading an integer without digits or from building
a structural token of another class; what they look at before does.

`Scanner.step` reads one construct and `Scanner.tokensFrom` goes on until the end of the source.  A
comment after an equals sign is refused only by the step that meets it.
-/

namespace UtilityCss.Scanner

open Scan

/-! ## Looking ahead -/

/-- Does a number come next?  A minus sign, a point or both may stand before its first digit. -/
def atNumber : Scan Bool := do
  let sign := if (← look 0) = some '-' then 1 else 0
  let point := if (← look sign) = some '.' then sign + 1 else sign
  return (← look point).any Char.isDigit

/-- Does a comment come next? -/
def atComment : Scan Bool := do
  let first ← look 0
  let second ← look 1
  return first = some '/' ∧ second = some '/'

/-! ## Readers -/

/-- A comment: a star after its slashes makes it public. -/
def readComment : Scan Token := do
  let _ ← advance
  let _ ← advance
  let starred ← accept '*'
  let text ← takeWhile (· != '\n')
  return .comment (if starred then .shown else .hidden) (Text.trim text)

/-- Moves over a number of characters, all of which must exist. -/
def advanceBy : Nat → Scan Unit
  | 0 => return ()
  | count + 1 => do
    let _ ← advance
    advanceBy count

/-- The end of a layer that a word names. -/
def edge (name : Text) : Scan Edge :=
  evaluate <|
    match Edge.ofName? name with
    | none => .error (.crashed (.notEdge name))
    | some edge => .ok edge

/-- A layer marker: a name, an end of the layer, and the end of the line. -/
def readLayerMarker : Scan Token := do
  advanceBy Lexer.layerKeyword.length
  let _ ← takeWhile isGap
  let name ← takeWhile (!isBlank ·)
  let _ ← takeWhile isGap
  let action ← takeWhile (!isBlank ·)
  if name = [] then fail .unnamedLayer
  else if action ∉ [Edge.name .start, Edge.name .stop] then fail (.unknownLayerAction action)
  else
    let _ ← takeWhile isGap
    let _ ← accept '\n'
    return .layer name (← edge action)

/-- A name in braces. -/
def readBracedName : Scan Text := do
  let _ ← advance
  let name ← takeWhile fun c => c != '}' && c != '\n'
  if (← look 0) ≠ some '}' then fail .unterminatedBrace
  else
    let _ ← advance
    return Text.trim name

/-- A reference: a name in braces and an optional unit. -/
def readVariableRef : Scan Token := do
  let name ← readBracedName
  let next ← look 0
  if next = some '%' then
    let _ ← advance
    return .variableRef name (some "%")
  else if next.any Char.isAlpha then
    let unit ← takeWhile Char.isAlpha
    if unit ∉ Vocabulary.units then fail (.unknownUnit unit)
    else return .variableRef name (some unit)
  else return .variableRef name none

/-- A media width: a name in braces, or everything up to the next blank. -/
def readMedia : Scan Token := do
  let _ ← advance
  if (← look 0) = some '{' then return .mediaVariableRef (← readBracedName)
  else
    let literal ← takeWhile (!isBlank ·)
    if literal = [] then fail .missingMediaWidth else return .mediaValue literal

/-- A suffix. -/
def readIdentifier : Scan Token := do
  let _ ← advance
  let name ← takeWhile Lexer.isNameCharacter
  if name ∉ Vocabulary.identifiers then fail (.unknownIdentifier name)
  else return .identifier name

/-- Moves behind the parenthesis that closes as many as were opened.  The argument must end on its
line. -/
def passArgument (name : Text) (depth : Int) (cursor : Cursor) : Except Halt Cursor :=
  match cursor.peek 0 with
  | none => .error (.reported (.lexical ⟨.unbalancedPseudoClass name, cursor.position⟩))
  | some c =>
    if c = '\n' then
      .error (.reported (.lexical ⟨.unbalancedPseudoClass name, cursor.position⟩))
    else
      match _moved : cursor.advance with
      | .error halt => .error halt
      | .ok (_, next) =>
        if c = '(' then passArgument name (depth + 1) next
        else if c = ')' then
          if depth - 1 = 0 then .ok next else passArgument name (depth - 1) next
        else passArgument name depth next
termination_by cursor.remaining
decreasing_by all_goals exact Cursor.remaining_of_advance _moved

/-- The argument of the named pseudo-class with its parentheses, which may be left out. -/
def readArgument (name : Text) : Scan Text := do
  if (← look 0) = some '(' then
    fun cursor => (passArgument name 0 cursor).map fun next => (next.since cursor.offset, next)
  else return []

/-- A pseudo-class: a name and an optional argument in parentheses. -/
def readPseudoClass : Scan Token := do
  let _ ← advance
  let name ← takeWhile Lexer.isNameCharacter
  let argument ← readArgument name
  if name ∉ Vocabulary.pseudoClasses then fail (.unknownPseudoClass name)
  else return .pseudoClass (':' :: name ++ argument)

/-- Moves over a point or a slash and digits, and tells whether there were any. -/
def passFraction : Scan Bool := do
  let mark ← look 0
  let digit ← look 1
  if (mark = some '.' ∨ mark = some '/') ∧ digit.any Char.isDigit then
    let _ ← advance
    let _ ← takeWhile Char.isDigit
    return true
  else return false

/-- A number.  One without fraction and unit is an integer, any other keeps its spelling. -/
def readNumber : Scan Token := do
  let start := (← get).offset
  let _ ← accept '-'
  let _ ← takeWhile Char.isDigit
  let fractional ← passFraction
  let unit ← takeWhile Char.isAlpha
  let text := (← get).since start
  if unit ≠ [] ∨ fractional then return .value (.text text)
  else return .value (.integer (← evaluate (Numeral.parse text)))

/-- A colour. -/
def readColor : Scan Token := do
  let _ ← advance
  let start := (← get).offset
  let digits ← passWhile fun cursor =>
    (cursor.peek 0).any Numeral.isHexDigit && cursor.offset - start < Lexer.colorDigits
  return .value (.text ('#' :: digits))

/-- The reference after a unit that overrides its own. -/
def readUnitReference (unit : Text) : Scan Token := do
  let _ ← takeWhile isGap
  if (← look 0) ≠ some '{' then fail (.missingReference unit)
  else return .variableRef (← readBracedName) (some unit)

/-- The value after an equals sign and gaps.  A unit stands before the reference that it
overrides. -/
def readAssigned : Scan Token := do
  match ← look 0 with
  | none => fail .missingValue
  | some c =>
    if c = '\n' then fail .missingValue
    else if c = '{' then readVariableRef
    else if c = '#' then readColor
    else if ← atNumber then readNumber
    else if Lexer.beginsWord c then
      let word ← takeWhile Lexer.isWordPart
      if word ∉ Vocabulary.units then return .value (.text word)
      else readUnitReference word
    else fail (.unknownValueFormat c)

/-- The class of a character that is a structural token. -/
def symbolKind? (c : Char) : Option TokenKind :=
  if c = '}' then some (.symbol .rightBrace)
  else if c = '[' then some (.symbol .leftBracket)
  else if c = ']' then some (.symbol .rightBracket)
  else if c = ',' then some (.symbol .comma)
  else none

/-- The structural token of a class. -/
def structural (kind : TokenKind) (char : Text) : Scan Token :=
  evaluate <|
    match Token.structural kind char with
    | .error e => .error (.crashed (.notStructural e))
    | .ok token => .ok token

/-- A structural token; a character that is none is kept. -/
def readSymbol : Scan Token := do
  let c ← advance
  match symbolKind? c with
  | none => structural (.symbol .unknown) [c]
  | some kind => structural kind []

/-! ## The dispatch -/

/-- Reads a construct that begins with the given character and is neither a gap, a comment, a line
end nor a layer marker.  Its tokens are put before those read so far, of which the last comes
first. -/
def construct (prior : List Token) (next : Option Char) : Scan (List Token) := do
  if next = some '@' then return (← readMedia) :: prior
  else if next = some '$' then return (← readIdentifier) :: prior
  else if next = some ':' then return (← readPseudoClass) :: prior
  else if ← atNumber then return (← readNumber) :: prior
  else if next.any Lexer.beginsWord then
    let word ← takeWhile Lexer.isWordPart
    return Token.classify prior word :: prior
  else if next = some '%' then
    let _ ← advance
    return .valueType "%" :: prior
  else if next = some '{' then return (← readVariableRef) :: prior
  else if next = some '#' then return (← readColor) :: prior
  else if next = some '=' then
    let _ ← advance
    let _ ← takeWhile isGap
    if ← atComment then return .equals :: prior
    else return (← readAssigned) :: .equals :: prior
  else return (← readSymbol) :: prior

/-- Reads the next construct. -/
def step (prior : List Token) : Scan (List Token) := do
  let next ← look 0
  if next.any isGap then
    let _ ← advance
    return prior
  else if ← atComment then
    if prior.head? = some .equals then fail .missingValue
    else return (← readComment) :: prior
  else if next = some '\n' then
    let _ ← advance
    return .newline :: prior
  else if next = some 'L' ∧ (← get).startsWith Lexer.layerKeyword then
    return (← readLayerMarker) :: prior
  else construct prior next

/-- Reads the rest of a source; `prior` holds the tokens read so far, the last one first. -/
def tokensFrom (prior : List Token) (cursor : Cursor) : Except Halt (List Token) :=
  if cursor.atEnd then .ok prior.reverse
  else
    match (step prior).run cursor with
    | .error halt => .error halt
    | .ok (prior, next) =>
      if next.remaining < cursor.remaining then tokensFrom prior next
      else .error (.crashed .stalled)
termination_by cursor.remaining

/-- The tokens of a source. -/
def tokens (source : Text) : Except Halt (List Token) := tokensFrom [] (.start source)

end UtilityCss.Scanner
