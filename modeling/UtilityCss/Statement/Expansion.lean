import UtilityCss.Statement.Fault
import UtilityCss.Vocabulary.Css

/-!
# Expanding a property

A suffix turns one property into others: `margin` with `top` is `margin-top`, and with `all` it is
every property of its family.  `none`, and no suffix at all, keep the property.  Whatever comes out
has to be a property that exists.
-/

namespace UtilityCss

/-- The properties named by a property and a suffix, whether or not they exist. -/
def candidates (base : Text) : Option Text → Except StatementFault (List Text)
  | none => .ok [base]
  | some identifier =>
    if identifier = "none" then .ok [base]
    else if identifier = "all" then
      if Vocabulary.variants base = [] then .error (.noVariants base)
      else .ok (Vocabulary.variants base)
    else .ok [base ++ "-" ++ identifier]

/-- The properties that a suffix expands a property to. -/
def expansion (base : Text) (identifier : Option Text) : Except StatementFault (List Text) := do
  let names ← candidates base identifier
  match names.find? (· ∉ Vocabulary.properties) with
  | some name => .error (.invalidProperty name)
  | none => .ok names

end UtilityCss
