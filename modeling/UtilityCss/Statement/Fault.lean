import UtilityCss.Numeral
import UtilityCss.Text.Quoted

/-!
# Faults of statements

Every way in which a line of tokens can fail to be a statement, and the wording of each.
-/

namespace UtilityCss

/-- Why a line is refused. -/
inductive StatementFault
  /-- The line has no keyword. -/
  | noKeyword
  /-- The line has several keywords. -/
  | manyKeywords
  /-- The keyword opens no statement. -/
  | invalidKeyword (name : Text)
  /-- The line holds a character without meaning. -/
  | unexpectedCharacter (char keyword : Text)
  /-- There is no property to set. -/
  | noProperty
  /-- There are several properties to set. -/
  | manyProperties
  /-- A unit does not follow a value. -/
  | strayUnit (unit : Text)
  /-- A comma stands before the first value. -/
  | leadingComma
  /-- There is no value to set. -/
  | noValue
  /-- There are several pseudo-classes. -/
  | manyPseudoClasses
  /-- There are several media conditions. -/
  | manyMediaConditions
  /-- An expanded property does not exist. -/
  | invalidProperty (name : Text)
  /-- A property that is to be expanded in every way has no variants. -/
  | noVariants (base : Text)
  /-- There is no variable to define. -/
  | noVariable
  /-- There are several variables to define. -/
  | manyVariables
  /-- There is no value to define. -/
  | noDefinition
  /-- A variable is used before it is defined. -/
  | unboundVariable (name : Text)
  /-- An integer has too many digits. -/
  | integerTooLong (e : IntegerTooLong)
deriving DecidableEq, Repr

/-- The wording of a fault. -/
def StatementFault.message : StatementFault → Text
  | .noKeyword => "Invalid line - no keyword found"
  | .manyKeywords => "Invalid line - multiple keywords found"
  | .invalidKeyword name => "Invalid keyword: " ++ name
  | .unexpectedCharacter char keyword =>
    "Unexpected character " ++ Text.quoted char ++ " in " ++ keyword ++ " statement"
  | .noProperty => "ADD statement requires a property"
  | .manyProperties => "ADD statement accepts exactly one property"
  | .strayUnit unit => "Unit " ++ unit ++ " must directly follow a value"
  | .leadingComma => "Unexpected ',' before the first value"
  | .noValue => "ADD statement requires at least one value"
  | .manyPseudoClasses => "ADD statement accepts at most one pseudo-class"
  | .manyMediaConditions => "ADD statement accepts at most one media condition"
  | .invalidProperty name => "Invalid property: " ++ name
  | .noVariants base => "Property " ++ base ++ " has no variants to expand with $all"
  | .noVariable => "VAR statement requires a variable name"
  | .manyVariables => "VAR statement accepts exactly one variable name"
  | .noDefinition => "VAR statement requires a value"
  | .unboundVariable name => "Variable not found: " ++ name
  | .integerTooLong e => e.message

end UtilityCss
