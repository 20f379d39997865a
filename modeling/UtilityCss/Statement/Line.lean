import UtilityCss.Token.Basic

/-!
# Lines of tokens

A statement is a line: `Line.group` cuts a list of tokens at its newline tokens, which are dropped,
and gives every layer marker a line of its own.  No line is empty.
-/

namespace UtilityCss.Line

/-- The tokens gathered for a line, the last one first, as a line; none if there are none. -/
def flush (current : List Token) : List (List Token) :=
  if current = [] then [] else [current.reverse]

/-- The lines of the tokens that follow those gathered for the current line, which are given with
the last one first. -/
def groupFrom (current : List Token) : List Token → List (List Token)
  | [] => flush current
  | .symbol .newline _ :: tokens => flush current ++ groupFrom [] tokens
  | .layer name edge :: tokens => flush current ++ [.layer name edge] :: groupFrom [] tokens
  | token :: tokens => groupFrom (token :: current) tokens

/-- The lines of a list of tokens. -/
def group (tokens : List Token) : List (List Token) := groupFrom [] tokens

end UtilityCss.Line
