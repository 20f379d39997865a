import UtilityCss.Text.Basic

/-!
# Ranges of code points

A character property that comes from the Unicode character database is kept as a table of
`CodeRange`s; a character has the property when one range covers it (`covered`).  The tables
themselves stand in the modules named for their property.
-/

namespace UtilityCss

/-- The code points from `first` to `last`, both included. -/
structure CodeRange where
  first : Nat
  last : Nat
deriving DecidableEq, Repr

namespace CodeRange

/-- Is the character's code point in the range? -/
def covers (range : CodeRange) (c : Char) : Bool := range.first ≤ c.toNat && c.toNat ≤ range.last

/-- Is the character in one of the ranges? -/
def covered (ranges : List CodeRange) (c : Char) : Bool := ranges.any (·.covers c)

end CodeRange

end UtilityCss
