import UtilityCss.Media
import UtilityCss.Record.Basic
import UtilityCss.Statement.Expansion
import UtilityCss.Store

/-!
# Adding rules

A line with the keyword `ADD` sets one property.  `Addition.read` gathers what the line says: the
property, the suffixes that expand it, the values, and at most one pseudo-class and one media width.
Only the values depend on the order of the tokens: a unit belongs to the value directly before it
and a comma to the last value so far.  `Addition.declarations` then makes one declaration for each
property that the suffixes name.
-/

namespace UtilityCss

/-- A media width: written out, or the value of a variable. -/
inductive MediaWidth
  | literal (width : Text)
  | variable (name : Text)
deriving DecidableEq, Repr

namespace MediaWidth

/-- The media width that a token is. -/
def ofToken? : Token → Option MediaWidth
  | .mediaValue width => some (.literal width)
  | .mediaVariableRef name => some (.variable name)
  | _ => none

/-- The condition for a media width.  A variable that is not defined gives none. -/
def condition (store : Store) : MediaWidth → Option Text
  | .literal width => some (Media.condition width)
  | .variable name => (store.get? name).map Media.condition

/-- The variable of a media width, if it is not defined. -/
def undefined? (store : Store) : MediaWidth → Option Text
  | .literal _ => none
  | .variable name => if store.contains name then none else some name

end MediaWidth

/-! ## Values -/

/-- The values gathered from the start of a line, the last ones first. -/
structure Gathered where
  /-- The texts of the values. -/
  values : List Text
  /-- The variables that were referred to. -/
  references : List Text
  /-- Was any value written out? -/
  literal : Bool
deriving DecidableEq, Repr

namespace Gathered

/-- Nothing gathered yet. -/
def empty : Gathered := ⟨[], [], false⟩

/-- One more value that is written out. -/
def addLiteral (gathered : Gathered) (text : Text) : Gathered :=
  { gathered with values := text :: gathered.values, literal := true }

/-- One more value that a variable gives. -/
def addReference (gathered : Gathered) (name text : Text) : Gathered :=
  { gathered with values := text :: gathered.values, references := name :: gathered.references }

/-- The unit that a token is, or none. -/
def unitOf : Option Token → Text
  | some (.valueType unit) => unit
  | _ => []

/-- Is the token a value? -/
def isValue : Option Token → Bool
  | some (.value _) => true
  | _ => false

/-- What one token adds, given its neighbours. -/
def step (store : Store) (gathered : Gathered) (previous : Option Token) (token : Token)
    (following : Option Token) : Except StatementFault Gathered :=
  match token with
  | .value literal => .ok (gathered.addLiteral (literal.toText ++ unitOf following))
  | .variable name => .ok (gathered.addLiteral name)
  | .variableRef name unit =>
    match store.slots? name with
    | none => .error (.unboundVariable name)
    | some slots => .ok (gathered.addReference name (Slot.renderAll slots unit))
  | .valueType unit => if isValue previous then .ok gathered else .error (.strayUnit unit)
  | .symbol .comma _ =>
    match gathered.values with
    | [] => .error .leadingComma
    | last :: values => .ok { gathered with values := (last ++ ",") :: values }
  | _ => .ok gathered

/-- What a line adds to the values gathered before it. -/
def gather (store : Store) (gathered : Gathered) (previous : Option Token) :
    List Token → Except StatementFault Gathered
  | [] => .ok gathered
  | token :: tokens => do
    let gathered ← gathered.step store previous token tokens.head?
    gathered.gather store (some token) tokens

/-- The names of the variables when nothing was written out, joined by hyphens. -/
def name? (gathered : Gathered) : Option Text :=
  if gathered.references ≠ [] ∧ !gathered.literal then
    some (Text.join "-" gathered.references.reverse)
  else none

end Gathered

/-! ## The statement -/

/-- What a line that adds rules says. -/
structure Addition where
  base : Text
  identifiers : List Text
  values : List Text
  optionalName : Option Text
  pseudoClass : Option Text
  media : Option MediaWidth
  values_ne_nil : values ≠ []

namespace Addition

/-- The property that a token is. -/
def property? : Token → Option Text
  | .property name => some name
  | _ => none

/-- The suffix that a token is. -/
def identifier? : Token → Option Text
  | .identifier name => some name
  | _ => none

/-- The pseudo-class that a token is. -/
def pseudoClass? : Token → Option Text
  | .pseudoClass name => some name
  | _ => none

/-- The only element of a list, or none if it is empty; a longer list is a fault. -/
def atMostOne (fault : StatementFault) : List α → Except StatementFault (Option α)
  | [] => .ok none
  | [a] => .ok (some a)
  | _ => .error fault

/-- The property that a line sets. -/
def singleProperty (line : List Token) : Except StatementFault Text :=
  match line.filterMap property? with
  | [] => .error .noProperty
  | [name] => .ok name
  | _ => .error .manyProperties

/-- Reads a line that adds rules. -/
def read (store : Store) (line : List Token) : Except StatementFault Addition := do
  let property ← singleProperty line
  let gathered ← Gathered.empty.gather store none line
  if h : gathered.values = [] then .error .noValue
  else
    let pseudoClass ← atMostOne .manyPseudoClasses (line.filterMap pseudoClass?)
    let media ← atMostOne .manyMediaConditions (line.filterMap MediaWidth.ofToken?)
    .ok {
      base := property
      identifiers := line.filterMap identifier?
      values := gathered.values.reverse
      optionalName := gathered.name?
      pseudoClass
      media
      values_ne_nil := by simpa using h }

/-- The properties that are set: those of each suffix in turn, or the property itself. -/
def properties (addition : Addition) : Except StatementFault (List Text) :=
  if addition.identifiers = [] then expansion addition.base none
  else do
    let names ← addition.identifiers.mapM fun identifier =>
      expansion addition.base (some identifier)
    .ok names.flatten

/-- The declaration of one of the properties. -/
def declaration (store : Store) (addition : Addition) (property : Text) : Declaration where
  property
  values := addition.values
  optionalName := addition.optionalName
  pseudoClass := addition.pseudoClass
  media := addition.media.bind (·.condition store)
  values_ne_nil := addition.values_ne_nil

/-- One declaration for each property that is set. -/
def declarations (store : Store) (addition : Addition) :
    Except StatementFault (List Declaration) := do
  let names ← addition.properties
  .ok (names.map (addition.declaration store))

end Addition

end UtilityCss
