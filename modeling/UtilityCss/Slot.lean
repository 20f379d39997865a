import UtilityCss.Numeral

/-!
# Scalars and slots

A `Scalar` is one literal: a text, an integer, or a number with a fraction that is kept as it was
written.  A `Slot` is a scalar with an optional unit, one part of a variable's value: `10px` is the
integer ten with the unit `px`.

`Slot.render` writes a slot back, with its own unit or with one that overrides it, and `Slot.read`
splits a text into number and unit; a text that is no number is kept whole.
-/

namespace UtilityCss

/-- A literal value. -/
inductive Scalar
  | text (content : Text)
  | integer (value : Int)
  /-- A number with a fraction, as it was written. -/
  | decimal (written : Text)
deriving DecidableEq, Repr

/-- The text of a literal. -/
def Scalar.toText : Scalar → Text
  | .text content => content
  | .integer value => Text.ofInt value
  | .decimal written => written

/-- One part of a variable's value: a literal and its unit. -/
structure Slot where
  value : Scalar
  unit : Option Text
deriving DecidableEq, Repr

namespace Slot

/-- The slot as text.  A given unit takes the place of the slot's own. -/
def render (slot : Slot) (override : Option Text) : Text :=
  slot.value.toText ++ override.getD (slot.unit.getD [])

/-- The slots as one text, with single blanks between them. -/
def renderAll (slots : List Slot) (override : Option Text) : Text :=
  Text.join " " (slots.map (·.render override))

/-- Each value with the unit at its position.  Missing units are absent and surplus ones are not
used. -/
def pair : List Scalar → List (Option Text) → List Slot
  | [], _ => []
  | value :: values, [] => ⟨value, none⟩ :: pair values []
  | value :: values, unit :: units => ⟨value, unit⟩ :: pair values units

/-! ## Reading a slot -/

/-- A character of a unit as it is written after a number. -/
def isUnitCharacter (c : Char) : Bool := c.isAlpha || c == '%'

/-- The denominator at the start of a text, slash included, and what follows it. -/
def denominator : Text → Text × Text
  | '/' :: rest =>
    let digits := rest.takeWhile isDecimalDigit
    if digits = [] then ([], '/' :: rest) else ('/' :: digits, rest.dropWhile isDecimalDigit)
  | text => ([], text)

/-- A number and its unit, if the text is nothing else; a newline may end it.  The number is a
decimal or a fraction. -/
def number? (text : Text) : Option (Text × Text) :=
  (Numeral.decimal? text).bind fun (numerator, rest) =>
    let (divisor, rest) := denominator rest
    let unit := rest.takeWhile isUnitCharacter
    let rest := rest.dropWhile isUnitCharacter
    if rest = [] ∨ rest = ['\n'] then some (numerator ++ divisor, unit) else none

/-- Are these digits with an optional minus sign? -/
def isInteger (number : Text) : Bool := (Text.skip '-' number).all isDecimalDigit

/-- Splits a text into number and unit.  An integer becomes its value, any other number keeps its
spelling, and a text that is no number is kept whole without a unit. -/
def read (text : Text) : Except IntegerTooLong Slot :=
  match number? text with
  | none => .ok ⟨.text text, none⟩
  | some (number, unit) =>
    let unit := if unit = [] then none else some unit
    if isInteger number then (Numeral.integer number).map fun value => ⟨.integer value, unit⟩
    else .ok ⟨.text number, unit⟩

end Slot

end UtilityCss
