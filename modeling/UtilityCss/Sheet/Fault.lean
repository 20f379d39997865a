import UtilityCss.Text.Basic

/-!
# Faults of style sheets

Why records cannot be written as a style sheet, and the wording of each reason.
-/

namespace UtilityCss

/-- Why records cannot be written as CSS. -/
inductive RenderFault
  /-- The value of a property is blank. -/
  | emptyValue (property : Text)
  /-- The value is none that the property may have. -/
  | invalidValue (property value : Text)
  /-- The condition does not have the form of a media condition. -/
  | invalidMedia (condition : Text)
deriving DecidableEq, Repr

/-- The wording of a fault. -/
def RenderFault.message : RenderFault → Text
  | .emptyValue property => "Empty value for property " ++ property
  | .invalidValue property value =>
    "Invalid value '" ++ value ++ "' for property '" ++ property ++
      "'. Expected a number with unit or valid CSS value."
  | .invalidMedia condition => "Invalid media query condition: " ++ condition

end UtilityCss
