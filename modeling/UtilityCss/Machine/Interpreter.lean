import UtilityCss.Compile
import UtilityCss.Machine.Scanner

/-!
# The interpreter

`Program.parse` takes the tokens of a line apart by their constructors.  An interpreter that sorts
them by kind first, and then treats everything in one `bucket` as a token of one class, relies on
the kind for the class.  Here that is said wherever it happens (`expect`): a token of another class
ends the run.  So do a line without a first token, an integer without digits and a declaration
without values; nothing else than what was checked before keeps them away.

`Machine.compile` is `Compile.source` with the scanner and this interpreter in the place of the
lexer and the program.
-/

namespace UtilityCss

namespace Interpreter

/-- Stops with a fault of a statement. -/
def report (result : Except StatementFault α) : Except Halt α :=
  result.mapError fun fault => .ofError (.semantic fault)

/-! ## Tokens by kind -/

/-- The tokens of a kind, in order. -/
def bucket (kind : TokenKind) (line : List Token) : List Token := line.filter (·.kind = kind)

/-- What a token of the asserted class holds. -/
def expect (read : Token → Option α) (token : Token) : Except Halt α :=
  match read token with
  | some content => .ok content
  | none => .error (.crashed (.wrongClass token))

/-- What the only token holds; none and several are faults. -/
def single (none many : StatementFault) (read : Token → Option α) : List Token → Except Halt α
  | [] => report (.error none)
  | [token] => expect read token
  | _ => report (.error many)

/-- The visibility and the text of a comment. -/
def comment? : Token → Option (Visibility × Text)
  | .comment visibility text => some (visibility, text)
  | _ => none

/-- The records of the public comments of a line. -/
def comments (line : List Token) : Except Halt (List Record) := do
  let found ← (bucket .comment line).mapM (expect comment?)
  return (found.filter (·.1 = .shown)).map (.comment ·.2)

/-- The character that a structural token keeps; other tokens have none. -/
def character : Token → Text
  | .symbol _ char => char
  | _ => []

/-- Refuses a character without meaning in a statement with the given keyword. -/
def refuseUnknown (keyword : Text) (line : List Token) : Except Halt Unit :=
  match bucket (.symbol .unknown) line with
  | token :: _ => report (.error (.unexpectedCharacter (character token) keyword))
  | [] => .ok ()

/-! ## Statements -/

/-- The properties that the suffixes of a line make of its property. -/
def properties (base : Text) (identifiers : List Token) : Except Halt (List Text) :=
  if identifiers = [] then report (expansion base none)
  else do
    let names ← identifiers.mapM fun token => do
      report (expansion base (some (← expect Addition.identifier? token)))
    return names.flatten

/-- A declaration, which must have values. -/
def declaration (property : Text) (values : List Text)
    (optionalName pseudoClass media : Option Text) : Except Halt Declaration :=
  match Declaration.ofValues property values optionalName pseudoClass media with
  | .error e => .error (.crashed (.noValues e))
  | .ok declaration => .ok declaration

/-- The declarations of a line that adds rules. -/
def declarations (store : Store) (line : List Token) : Except Halt (List Declaration) := do
  let base ← single .noProperty .manyProperties Addition.property? (bucket .property line)
  let gathered ← report (Gathered.empty.gather store none line)
  if gathered.values = [] then report (.error .noValue)
  else
    let pseudoClass ← report (Addition.atMostOne .manyPseudoClasses (bucket .pseudoClass line))
    let width ← report (Addition.atMostOne .manyMediaConditions
      (bucket .mediaValue line ++ bucket .mediaVariableRef line))
    let names ← properties base (bucket .identifier line)
    names.mapM fun name =>
      declaration name gathered.values.reverse gathered.name?
        (pseudoClass.bind Addition.pseudoClass?)
        ((width.bind MediaWidth.ofToken?).bind (·.condition store))

/-- Is this at least one digit, after a minus sign that may be missing? -/
def isIntegral (number : Text) : Bool :=
  !(Text.skip '-' number).isEmpty && (Text.skip '-' number).all isDecimalDigit

/-- The slot of a literal text, split into number and unit. -/
def slot (text : Text) : Except Halt Slot :=
  match Slot.number? text with
  | none => .ok ⟨.text text, none⟩
  | some (number, unit) =>
    let unit := if unit = [] then none else some unit
    if isIntegral number then (Numeral.parse number).map fun value => ⟨.integer value, unit⟩
    else .ok ⟨.text number, unit⟩

/-- What one token adds to the slots gathered so far, the last one first. -/
def step (store : Store) (slots : List Slot) (token : Token) (following : Option Token) :
    Except Halt (List Slot) :=
  match token with
  | .value (.text text) =>
    (slot text).map fun slot => ⟨slot.value, Assignment.unitOf slot.unit following⟩ :: slots
  | token => report (Assignment.step store slots token following)

/-- What tokens add to the slots gathered so far, the last one first. -/
def slotsFrom (store : Store) (slots : List Slot) : List Token → Except Halt (List Slot)
  | [] => .ok slots
  | token :: tokens => do
    let slots ← step store slots token tokens.head?
    slotsFrom store slots tokens

/-- The tokens of the names that a line declares, and those of their value. -/
def split (line : List Token) : List Token × List Token :=
  match line.dropWhile (·.kind ≠ .symbol .equals) with
  | _ :: value => (bucket .variable (line.takeWhile (·.kind ≠ .symbol .equals)), value)
  | [] =>
    match line.dropWhile (·.kind ≠ .variable) with
    | head :: value => ([head], value)
    | [] => ([], [])

/-- What a line that defines a variable says. -/
def assignment (store : Store) (line : List Token) : Except Halt Assignment := do
  let name ← single .noVariable .manyVariables Assignment.name? (split line).1
  let slots ← slotsFrom store [] (split line).2
  if slots = [] then report (.error .noDefinition) else return ⟨name, slots.reverse⟩

/-- The effect of a line with a keyword. -/
def effect (store : Store) (line : List Token) : Except Halt Effect := do
  let comments ← comments line
  let name ← single .noKeyword .manyKeywords Statement.keyword? (bucket .keyword line)
  if name = "ADD" then
    refuseUnknown "ADD" line
    let declarations ← declarations store line
    return ⟨comments ++ declarations.map .rule, none⟩
  else if name = "VAR" then
    refuseUnknown "VAR" line
    return ⟨comments, some (← assignment store line)⟩
  else if name = "IMPORT" ∨ name = "TEMPLATE" then return ⟨comments, none⟩
  else report (.error (.invalidKeyword name))

/-- The effect of a line, which must have a first token. -/
def interpret (store : Store) : List Token → Except Halt Effect
  | [] => .error (.crashed .emptyLine)
  | .layer name edge :: _ => .ok ⟨[.layer name edge], none⟩
  | .comment .hidden _ :: _ => .ok ⟨[], none⟩
  | [.comment .shown text] => .ok ⟨[.comment text], none⟩
  | line => effect store line

/-! ## Programs -/

/-- Interprets lines in order.  The store is that of the lines before the one that stopped. -/
def run (store : Store) : List (List Token) → Except Halt (List Record) × Store
  | [] => (.ok [], store)
  | line :: lines =>
    match interpret store line with
    | .error halt => (.error halt, store)
    | .ok effect =>
      let (result, final) := run (effect.store store) lines
      (result.map (effect.records ++ ·), final)

/-- The records of a program, without repetitions and empty layers, and the store after it. -/
def parse (store : Store) (tokens : List Token) : Except Halt (List Record) × Store :=
  let (result, final) := run store (Line.group tokens)
  (result.map Record.tidy, final)

end Interpreter

namespace Machine

/-- Compiles a text with options that were checked. -/
def checked (options : Options) (store : Store) (source : Text) :
    Except Halt Compilation × Store :=
  match Scanner.tokens source with
  | .error halt => (.error halt, store)
  | .ok tokens =>
    match Interpreter.parse store tokens with
    | (.error halt, store) => (.error halt, store)
    | (.ok records, store) =>
      match Sheet.generate options.style records with
      | .error fault => (.error (.reported (.render fault)), store)
      | .ok css => (.ok { css, records, tokens, bindings := store.all, files := [] }, store)

/-- Compiles a text. -/
def compile (options : OptionTexts) (store : Store) (source : Text) :
    Except Halt Compilation × Store :=
  match options.validate with
  | .error fault => (.error (.reported (.options fault)), store)
  | .ok options => checked options store source

end Machine

end UtilityCss
