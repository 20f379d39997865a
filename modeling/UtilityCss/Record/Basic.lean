import UtilityCss.Text.Quoted
import UtilityCss.Token.Basic

/-!
# Records

Statements are interpreted as records: a `Declaration` becomes one rule of the style sheet, a
comment is copied into it, and the two ends of a layer delimit what one source file contributed.

A declaration has at least one value.  `Declaration.ofValues` builds one from a list of values and
refuses the empty list.
-/

namespace UtilityCss

/-- One rule to emit. -/
structure Declaration where
  /-- The property that the rule sets. -/
  property : Text
  /-- The parts of its value, written with single blanks between them. -/
  values : List Text
  /-- The variables that the whole value came from; they name the class. -/
  optionalName : Option Text
  /-- The pseudo-class that the selector ends in. -/
  pseudoClass : Option Text
  /-- The media condition that the rule stands under. -/
  media : Option Text
  values_ne_nil : values ≠ []
deriving DecidableEq, Repr

/-- A declaration was given no values. -/
structure NoValues where
  property : Text
deriving DecidableEq, Repr

/-- The wording for a declaration without values. -/
def NoValues.message (e : NoValues) : Text :=
  "Declaration for " ++ Text.quoted e.property ++ " has no values"

namespace Declaration

/-- The declaration with the given values, if there are any. -/
def ofValues (property : Text) (values : List Text) (optionalName pseudoClass media : Option Text) :
    Except NoValues Declaration :=
  if h : values = [] then .error ⟨property⟩
  else .ok ⟨property, values, optionalName, pseudoClass, media, h⟩

/-- The value as one text. -/
def joined (declaration : Declaration) : Text := Text.join " " declaration.values

end Declaration

/-- What the statements of a source amount to. -/
inductive Record
  | rule (declaration : Declaration)
  | comment (text : Text)
  | layer (name : Text) (edge : Edge)
deriving DecidableEq, Repr

namespace Record

/-- Is the record a rule? -/
def isRule : Record → Bool
  | .rule _ => true
  | _ => false

/-- The property and values under which a record is known; a comment has a property of its own. -/
def key : Record → Text × List Text
  | .rule declaration => (declaration.property, declaration.values)
  | .comment text => ("COMMENT", [text])
  | .layer name edge => ("LAYER", [name, edge.name])

end Record

end UtilityCss
