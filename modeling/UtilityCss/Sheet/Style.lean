import UtilityCss.Sheet.ClassName
import UtilityCss.Sheet.Layout

/-!
# Styles

A `Style` says how a style sheet is written: how classes are named, how the text is laid out,
whether layers are kept, and which way media widths bound the viewport.  `Style.ofNames` looks the
format and the mode up by their names; the mode is looked up first.
-/

namespace UtilityCss

/-- How a style sheet is written. -/
structure Style where
  format : ClassNameFormat
  mode : Mode
  /-- Are the layers of the sources kept? -/
  layers : Bool
  /-- Do media widths bound the viewport from below? -/
  mobileFirst : Bool
deriving DecidableEq, Repr

/-- A name that no style has. -/
inductive StyleFault
  | unknownMode (name : Text)
  | unknownFormat (name : Text)
deriving DecidableEq, Repr

/-- The wording of a fault. -/
def StyleFault.message : StyleFault → Text
  | .unknownMode name => "Unknown render mode " ++ Text.quoted name
  | .unknownFormat name => "Class name formatter \"" ++ name ++ "\" not found."

/-- The class name format with a given name. -/
def ClassNameFormat.ofName (name : Text) : Except StyleFault ClassNameFormat :=
  match ClassNameFormat.ofName? name with
  | some format => .ok format
  | none => .error (.unknownFormat name)

/-- The mode with a given name. -/
def Mode.ofName (name : Text) : Except StyleFault Mode :=
  match Mode.ofName? name with
  | some mode => .ok mode
  | none => .error (.unknownMode name)

/-- The style with the named mode and format. -/
def Style.ofNames (format mode : Text) (layers mobileFirst : Bool) : Except StyleFault Style := do
  let mode ← Mode.ofName mode
  let format ← ClassNameFormat.ofName format
  .ok { format, mode, layers, mobileFirst }

end UtilityCss
