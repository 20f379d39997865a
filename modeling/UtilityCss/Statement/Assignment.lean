import UtilityCss.Statement.Fault
import UtilityCss.Store
import UtilityCss.Token.Basic

/-!
# Defining variables

A line with the keyword `VAR` binds one name to the slots of the values after it.  The name stands
before the equals sign; without one, the first name of the line is bound to what follows it.

`Assignment.slotsFrom` gathers the slots: a literal text is split into number and unit, a reference
copies the slots of another variable, and a comma makes the last slot a text with its unit and the
comma in it.
-/

namespace UtilityCss

/-- A name and the slots that it is bound to. -/
structure Assignment where
  name : Text
  slots : List Slot
deriving DecidableEq, Repr

namespace Assignment

/-- The store after the definition. -/
def apply (assignment : Assignment) (store : Store) : Store :=
  store.bind assignment.name assignment.slots

/-- The name that a token is. -/
def name? : Token → Option Text
  | .variable name => some name
  | _ => none

/-- Is this the equals sign? -/
def isEquals : Token → Bool
  | .symbol .equals _ => true
  | _ => false

/-- The unit that a token gives to the value before it, in place of the value's own. -/
def unitOf (own : Option Text) : Option Token → Option Text
  | some (.valueType unit) => some unit
  | _ => own

/-- The slot of a literal.  A text is split into number and unit. -/
def literalSlot : Scalar → Except StatementFault Slot
  | .text text => (Slot.read text).mapError .integerTooLong
  | number => .ok ⟨number, none⟩

/-- A copy of a slot, with a unit that overrides its own. -/
def copy (unit : Option Text) (slot : Slot) : Slot := ⟨slot.value, unit <|> slot.unit⟩

/-- What one token adds to the slots gathered so far, the last one first. -/
def step (store : Store) (slots : List Slot) (token : Token) (following : Option Token) :
    Except StatementFault (List Slot) :=
  match token with
  | .value literal =>
    (literalSlot literal).map fun slot => ⟨slot.value, unitOf slot.unit following⟩ :: slots
  | .variable name => .ok (⟨.text name, none⟩ :: slots)
  | .variableRef name unit =>
    match store.slots? name with
    | none => .error (.unboundVariable name)
    | some copied => .ok ((copied.map (copy unit)).reverse ++ slots)
  | .symbol .comma _ =>
    match slots with
    | [] => .error .leadingComma
    | last :: slots => .ok (⟨.text (last.render none ++ ","), none⟩ :: slots)
  | _ => .ok slots

/-- What tokens add to the slots gathered so far, the last one first. -/
def slotsFrom (store : Store) (slots : List Slot) :
    List Token → Except StatementFault (List Slot)
  | [] => .ok slots
  | token :: tokens => do
    let slots ← step store slots token tokens.head?
    slotsFrom store slots tokens

/-- The names that a line declares, and the tokens of their value. -/
def split (line : List Token) : List Text × List Token :=
  match line.dropWhile (!isEquals ·) with
  | _ :: value => ((line.takeWhile (!isEquals ·)).filterMap name?, value)
  | [] =>
    match line.dropWhile (fun token => (name? token).isNone) with
    | head :: value => ([head].filterMap name?, value)
    | [] => ([], [])

/-- The single name that a line declares. -/
def singleName : List Text → Except StatementFault Text
  | [] => .error .noVariable
  | [name] => .ok name
  | _ => .error .manyVariables

/-- Reads a line that defines a variable. -/
def read (store : Store) (line : List Token) : Except StatementFault Assignment := do
  let (names, value) := split line
  let name ← singleName names
  let slots ← slotsFrom store [] value
  if slots = [] then .error .noDefinition else .ok ⟨name, slots.reverse⟩

end Assignment

end UtilityCss
