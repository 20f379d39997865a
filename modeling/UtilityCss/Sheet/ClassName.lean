import UtilityCss.Media
import UtilityCss.Record.Basic
import UtilityCss.Text.Case

/-!
# Class names

A declaration is emitted under a class whose name tells what it sets: a form of the property, a form
of the value, and short tags for pseudo-class and media width, with underscores between them.  The
four `ClassNameFormat`s differ in how they write the property and in whether they shorten the name
of a variable that the value came from.
-/

namespace UtilityCss

/-- How class names are built. -/
inductive ClassNameFormat
  | minimalistic
  | standard
  | fullName
  | bootstrap
deriving DecidableEq, Repr

namespace ClassNameFormat

/-- Every format. -/
def all : List ClassNameFormat := [.minimalistic, .standard, .fullName, .bootstrap]

/-- The name of a format. -/
def name : ClassNameFormat → Text
  | .minimalistic => "minimalistic"
  | .standard => "standard"
  | .fullName => "full-name"
  | .bootstrap => "bootstrap"

/-- The format with a given name. -/
def ofName? (text : Text) : Option ClassNameFormat := all.find? (·.name = text)

end ClassNameFormat

namespace ClassName

/-- Characters that are left out of class names. -/
def specialCharacters : List Char := ['#', '(', ')', ',', '.', '/', ':', '\x27', '"', '+', '*', '!']

/-- The vowels that shortening leaves out. -/
def vowels : List Char := ['a', 'e', 'i', 'o', 'u', 'A', 'E', 'I', 'O', 'U']

/-- The text without special characters, and with a letter for the percent sign. -/
def safe (text : Text) : Text :=
  (text.filter (· ∉ specialCharacters)).map fun c => if c = '%' then 'p' else c

/-- The text without vowels after its first character. -/
def shorten : Text → Text
  | [] => []
  | c :: rest => c :: rest.filter (· ∉ vowels)

/-- An optional text that is not empty. -/
def present (text : Option Text) : Option Text := text.filter (· ≠ [])

/-! ## The parts of a name -/

/-- The first characters of the parts of a property, in small letters. -/
def initials (property : Text) : Text :=
  Text.lower ((property.splitOn '-').flatMap (·.take 1))

/-- The parts of a property with capital first letters. -/
def capitalized (property : Text) : Text := (property.splitOn '-').flatMap Text.capitalize

/-- Families of properties with a letter of their own. -/
def families : List (Text × Text) :=
  [("padding", "p"), ("margin", "m"), ("border", "b"), ("width", "w"), ("height", "h")]

/-- The letter of a family, or the first character of the property. -/
def familyLetter (property : Text) : Text :=
  match families.find? fun (family, _) => Text.startsWith family property with
  | some (_, letter) => letter
  | none => property.take 1

/-- The property in a class name. -/
def stem (format : ClassNameFormat) (property : Text) : Text :=
  match format with
  | .minimalistic | .standard => initials property
  | .fullName => capitalized property
  | .bootstrap => familyLetter property

/-- The value in a class name: the variables that it came from, or its words with hyphens between
them. -/
def valuePart (format : ClassNameFormat) (declaration : Declaration) : Text :=
  match present declaration.optionalName with
  | some name => if format = .minimalistic then shorten (safe name) else safe name
  | none =>
    let value := safe (Text.join "-" (declaration.values.map fun value =>
      Text.join "-" (Text.words value)))
    if value = [] then "none" else value

/-- The tags for pseudo-class and media width. -/
def tags (declaration : Declaration) : List Text :=
  let pseudo := (present declaration.pseudoClass).map fun name => (name.dropWhile (· = ':')).take 1
  let media := (present declaration.media).map fun condition => 'm' :: Media.tag condition
  pseudo.toList ++ media.toList

/-- The class selector of a declaration. -/
def ofDeclaration (format : ClassNameFormat) (declaration : Declaration) : Text :=
  "." ++ Text.join "_"
    ([stem format declaration.property, valuePart format declaration] ++ tags declaration)

end ClassName

end UtilityCss
