import UtilityCss.Sheet.Style

/-!
# Options of a compilation

Options are given as texts (`OptionTexts`) and have to be checked before anything else is done:
`OptionTexts.validate` turns them into `Options`, whose mode and format are known to exist and whose
extension begins with a point.
-/

namespace UtilityCss

/-- Options as they are given. -/
structure OptionTexts where
  classNameFormat : Text := "minimalistic"
  mode : Text := "standard"
  layers : Bool := false
  mobileFirst : Bool := false
  /-- The directory of templates; the empty path stands for `assets` in the current directory. -/
  templatesDirectory : Text := ""
  extension : Text := ".lui"
deriving DecidableEq, Repr

/-- Options that can be used. -/
structure Options where
  style : Style
  templatesDirectory : Text
  extension : Text
deriving DecidableEq, Repr

/-- An option that cannot be used. -/
inductive OptionFault
  | unknownMode (name : Text)
  | unknownFormat (name : Text)
  | invalidExtension (extension : Text)
deriving DecidableEq, Repr

/-- The wording of a fault. -/
def OptionFault.message : OptionFault → Text
  | .unknownMode name =>
    "Unknown render mode " ++ Text.quoted name ++ "; expected one of " ++
      Text.join ", " (Mode.all.map Mode.name)
  | .unknownFormat name =>
    "Class name formatter " ++ Text.quoted name ++ " not found; expected one of " ++
      Text.join ", " (ClassNameFormat.all.map ClassNameFormat.name)
  | .invalidExtension extension =>
    "File extension must start with '.': " ++ Text.quoted extension

/-- Checks the mode, the format and the extension, in this order. -/
def OptionTexts.validate (options : OptionTexts) : Except OptionFault Options :=
  match Mode.ofName? options.mode with
  | none => .error (.unknownMode options.mode)
  | some mode =>
    match ClassNameFormat.ofName? options.classNameFormat with
    | none => .error (.unknownFormat options.classNameFormat)
    | some format =>
      if options.extension.head? = some '.' then
        .ok {
          style := {
            format, mode, layers := options.layers, mobileFirst := options.mobileFirst }
          templatesDirectory := options.templatesDirectory
          extension := options.extension }
      else .error (.invalidExtension options.extension)

end UtilityCss
