import UtilityCss.Numeral
import UtilityCss.Text.Blank

/-!
# Media conditions

A media width is written as the condition that the viewport be at least that wide
(`Media.condition`).  A style sheet that does not start from small screens turns the condition round
(`Media.oriented`), and only conditions of a fixed form are let into the style sheet
(`Media.isValid`): a feature name and a width that is a number with a unit or a custom property.
-/

namespace UtilityCss.Media

/-- The name of the lower bound. -/
def minWidth : Text := ['m', 'i', 'n', '-', 'w', 'i', 'd', 't', 'h']

/-- The name of the upper bound. -/
def maxWidth : Text := ['m', 'a', 'x', '-', 'w', 'i', 'd', 't', 'h']

/-- The width in a condition: a bare number stands for pixels. -/
def width (text : Text) : Text :=
  let width := Text.trim text
  if Numeral.isDecimal width then width ++ "px" else width

/-- The condition for a declared width. -/
def condition (text : Text) : Text := "(" ++ minWidth ++ ": " ++ width text ++ ")"

/-- The condition as it is emitted: every mention of the lower bound becomes the upper bound, unless
small screens come first. -/
def oriented (mobileFirst : Bool) (condition : Text) : Text :=
  if mobileFirst then condition else Text.replaceAll minWidth maxWidth condition

/-! ## The form of a condition -/

/-- The units that a width may have. -/
def units : List Text := [['p', 'x'], ['r', 'e', 'm'], ['e', 'm'], ['%'], ['v', 'w'], ['v', 'h']]

/-- What may close a condition: its parenthesis, perhaps with a newline behind it. -/
def closes (text : Text) : Bool := text = ")" || text = ")\n"

/-- Does the text begin with one of the units and then close the condition? -/
def closesAfterUnit (text : Text) : Bool := units.any fun unit => (Text.after? unit text).any closes

/-- Is this a number with a unit, and then the end of the condition? -/
def isMeasure (text : Text) : Bool :=
  let rest := text.dropWhile Char.isDigit
  (text.head?.any Char.isDigit) &&
    (closesAfterUnit rest ||
      match rest with
      | '.' :: rest => rest.head?.any Char.isDigit && closesAfterUnit (rest.dropWhile Char.isDigit)
      | _ => false)

/-- A character of the name of a custom property. -/
def isNamePart (c : Char) : Bool := c.isAlphanum || c == '-'

/-- Is this the value of a custom property, and then the end of the condition? -/
def isCustomProperty (text : Text) : Bool :=
  (Text.after? "var(--" text).any fun name =>
    name.head?.any isNamePart &&
      match name.dropWhile isNamePart with
      | ')' :: rest => closes rest
      | _ => false

/-- Does the condition have the form that may be emitted? -/
def isValid (condition : Text) : Bool :=
  [minWidth, maxWidth].any fun feature =>
    (Text.after? ("(" ++ feature ++ ":") condition).any fun rest =>
      isMeasure (Text.trimStart rest) || isCustomProperty (Text.trimStart rest)

/-! ## The width in a class name -/

/-- The digits of a number at the start of a text, without sign and point, or nothing if there is no
number. -/
def digits? (text : Text) : Option Text :=
  let text := Text.skip '-' text
  let whole := text.takeWhile isDecimalDigit
  let rest := text.dropWhile isDecimalDigit
  if whole = [] then none
  else
    match rest with
    | '.' :: rest => some (whole ++ rest.takeWhile isDecimalDigit)
    | _ => some whole

/-- The digits of the first number that follows a colon; blanks may stand between them. -/
def tag : Text → Text
  | [] => []
  | c :: rest =>
    if c = ':' then (digits? (Text.trimStart rest)).getD (tag rest) else tag rest

end UtilityCss.Media
