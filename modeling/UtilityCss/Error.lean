import UtilityCss.Import.Bundle
import UtilityCss.Options
import UtilityCss.Sheet.Fault
import UtilityCss.Statement.Fault
import UtilityCss.Token.Lexer

/-!
# Errors of a compilation

Whatever stops a compilation is an `Error`: the fault of one of its stages.  `Error.stage?` tells
the stage.  Two errors belong to none: an integer with too many digits and a path that cannot be
followed are no mistakes that a stage reports, but end the run (`Error.abort?`).
-/

namespace UtilityCss

/-- The stages of a compilation that refuse their input. -/
inductive Stage
  | load
  | cycle
  | lexical
  | semantic
  | render
  | config
deriving DecidableEq, Repr

/-- The name of a stage. -/
def Stage.name : Stage → Text
  | .load => "load"
  | .cycle => "cycle"
  | .lexical => "lexical"
  | .semantic => "semantic"
  | .render => "render"
  | .config => "config"

/-- Why a compilation stopped. -/
inductive Error
  | imports (fault : ImportFault)
  | lexical (error : LexError)
  | semantic (fault : StatementFault)
  | render (fault : RenderFault)
  | options (fault : OptionFault)
  | style (fault : StyleFault)
deriving DecidableEq, Repr

/-- What ends a run without being the mistake of a stage. -/
inductive Abort
  | integerTooLong (e : IntegerTooLong)
  | nullInPath (e : NullInPath)
  | emptyName (e : EmptyName)
  | unencodable (e : Utf8.Unencodable)
  /-- The standard output does not take a line. -/
  | unprintable (line : Text)
deriving DecidableEq, Repr

/-- The wording for the end of a run. -/
def Abort.message : Abort → Text
  | .integerTooLong e => e.message
  | .nullInPath e => e.message
  | .emptyName e => Text.quoted e.path.toText ++ " has an empty name"
  | .unencodable e => e.message
  | .unprintable line => Text.quoted line ++ " cannot be printed"

/-- A place given by a line and a column, either of which may be missing.  A column without a line
says nothing, and a line without a column begins at zero. -/
def placeText (line column : Option Int) : Option Text :=
  line.map fun line => Text.ofInt line ++ ":" ++ Text.ofInt (column.getD 0)

/-- A message followed by the position that it is about, if it is about one. -/
def located (message : Text) : Option Text → Text
  | none => message
  | some position => message ++ " (" ++ position ++ ")"

namespace Error

/-- The stage that stopped. -/
def stage? : Error → Option Stage
  | .imports (.load _ _ _) => some .load
  | .imports (.cycle _ _) => some .cycle
  | .imports (.path _) => none
  | .lexical ⟨.integerTooLong _, _⟩ => none
  | .lexical _ => some .lexical
  | .semantic (.integerTooLong _) => none
  | .semantic _ => some .semantic
  | .render _ => some .render
  | .options _ => some .config
  | .style _ => some .config

/-- What ends the run, if the error belongs to no stage. -/
def abort? : Error → Option Abort
  | .imports (.path e) => some (.nullInPath e)
  | .lexical ⟨.integerTooLong e, _⟩ => some (.integerTooLong e)
  | .semantic (.integerTooLong e) => some (.integerTooLong e)
  | _ => none

/-- The position that the error is about. -/
def position? : Error → Option Position
  | .lexical ⟨.integerTooLong _, _⟩ => none
  | .lexical error => some error.position
  | _ => none

/-- The wording of an error, without its position. -/
def bareMessage : Error → Text
  | .imports fault => fault.message
  | .lexical error => error.fault.message
  | .semantic fault => fault.message
  | .render fault => fault.message
  | .options fault => fault.message
  | .style fault => fault.message

/-- The wording of an error. -/
def message (error : Error) : Text :=
  located error.bareMessage (error.position?.map Position.toText)

end Error

end UtilityCss
