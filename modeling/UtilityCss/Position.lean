import UtilityCss.Text.Basic

/-!
# Positions in a source

A position is a line and a column, both counted from one; columns count characters.  The position
reached after some text is read off that text alone (`Position.after`).
-/

namespace UtilityCss

/-- A line and a column, counted from one. -/
structure Position where
  line : Nat
  column : Nat
deriving DecidableEq, Repr

namespace Position

/-- Where a source begins. -/
def start : Position := ⟨1, 1⟩

/-- The position behind one more character. -/
def advance (position : Position) (c : Char) : Position :=
  if c = '\n' then ⟨position.line + 1, 1⟩ else ⟨position.line, position.column + 1⟩

/-- The position behind a text that stands at the start of a source. -/
def after (consumed : Text) : Position := consumed.foldl advance start

/-- A position as it is written in messages. -/
def toText (position : Position) : Text :=
  Text.ofNat position.line ++ ":" ++ Text.ofNat position.column

end Position

end UtilityCss
