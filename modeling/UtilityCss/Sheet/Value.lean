import UtilityCss.Numeral
import UtilityCss.Sheet.Fault
import UtilityCss.Text.Blank
import UtilityCss.Text.Case
import UtilityCss.Text.Caseless
import UtilityCss.Text.WordCharacter
import UtilityCss.Vocabulary.Css
import UtilityCss.Vocabulary.Language

/-!
# Values of properties

`Value.validate` decides whether a text may be the value of a property and writes it as it goes into
the style sheet: trimmed, and with the unit `px` if it is a bare number where a length is needed.

A compound property takes anything that is not blank.  Every property takes a recognised value
(`isRecognized`): a text with a measure or a CSS-wide keyword among its words, a call of a known
function, a colour, or a row of value keywords.  Beyond that a property that needs a length takes
numbers and intrinsic sizes, and any other property takes a list of terms (`isTermList`).
-/

namespace UtilityCss.Value

/-! ## Recognised values -/

/-- Is the text a number with a unit, in any case? -/
def isMeasure (text : Text) : Bool :=
  (Numeral.decimal? text).any fun (_, unit) => Vocabulary.units.any (Text.caseless · unit)

/-- Is the text a keyword that every property accepts, in any case? -/
def isWideKeyword (text : Text) : Bool := Vocabulary.wideKeywords.any (Text.caseless · text)

/-- Is the text a call of a known function?  Only what stands before the first parenthesis is looked
at. -/
def isFunctionCall (text : Text) : Bool :=
  '(' ∈ text && text.takeWhile (· != '(') ∈ Vocabulary.functions

/-- Is the text a colour in base sixteen, of three, four, six or eight digits? -/
def isHexColor : Text → Bool
  | '#' :: digits => digits.all Numeral.isHexDigit && digits.length ∈ [3, 4, 6, 8]
  | _ => false

/-- The functions that give a colour. -/
def colorFunctions : List Text :=
  [['r', 'g', 'b'], ['r', 'g', 'b', 'a'], ['h', 's', 'l'], ['h', 's', 'l', 'a']]

/-- Is the text a call of a colour function, in any case, that ends with its parenthesis on the line
that it began on? -/
def isColorCall (text : Text) : Bool :=
  colorFunctions.any (Text.caseless · (text.takeWhile (· != '('))) &&
    match text.dropWhile (· != '(') with
    | _ :: rest => rest.getLast? = some ')' && '\n' ∉ rest
    | [] => false

/-- Is the text a value of any property? -/
def isRecognized (text : Text) : Bool :=
  (Text.words text).any (fun word => isWideKeyword word || isMeasure word) ||
    isFunctionCall text || isHexColor text || isColorCall text ||
    (Text.words text).all (· ∈ Vocabulary.valueKeywords)

/-! ## Terms -/

/-- Is the text a word: a letter, underscore or hyphen, and then word characters and hyphens? -/
def isWord : Text → Bool
  | [] => false
  | c :: rest =>
    (c.isAlpha || c == '_' || c == '-') && rest.all fun c => isWordCharacter c || c == '-'

/-- Is the text a number, perhaps with letters or a percent sign behind it? -/
def isQuantity (text : Text) : Bool :=
  (Numeral.decimal? text).any fun (_, unit) => unit.all Char.isAlpha || unit = "%"

/-- Is the text a number sign and three to eight digits in base sixteen? -/
def isHash : Text → Bool
  | '#' :: digits => digits.all Numeral.isHexDigit && 3 ≤ digits.length && digits.length ≤ 8
  | _ => false

/-- Is the text a word, a quantity or a hash? -/
def isTerm (text : Text) : Bool := isWord text || isQuantity text || isHash text

/-- Is the trimmed text a list of terms, separated by blanks and by at most one comma in a row? -/
def isTermList (text : Text) : Bool :=
  (text.splitOn ',').all fun segment =>
    Text.words segment ≠ [] && (Text.words segment).all isTerm

/-! ## Validation -/

/-- Is the text a size that needs no number, in any case? -/
def isIntrinsic (text : Text) : Bool := Text.lower text ∈ Vocabulary.intrinsicSizes

/-- The value of a property as it is written in the style sheet. -/
def validate (property value : Text) : Except RenderFault Text :=
  let trimmed := Text.trim value
  if trimmed = [] then .error (.emptyValue property)
  else if property ∈ Vocabulary.compoundProperties then .ok trimmed
  else if isRecognized trimmed then .ok trimmed
  else if property ∈ Vocabulary.lengthProperties then
    if Numeral.isDecimal trimmed then .ok (trimmed ++ "px")
    else if isIntrinsic trimmed then .ok trimmed
    else .error (.invalidValue property value)
  else if isIntrinsic trimmed || isTermList trimmed then .ok trimmed
  else .error (.invalidValue property value)

end UtilityCss.Value
