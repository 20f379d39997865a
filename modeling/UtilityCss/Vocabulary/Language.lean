import UtilityCss.Text.Basic

/-!
# Words of the style language

A source line is made of words, and what a word means is decided by membership in closed lists.
Words are spelled out as lists
of characters, the form in which they are compared.

This module holds the lists of the language itself: statement keywords, the suffixes that expand a
property, the units, and the pseudo-classes that may follow a colon.  The lists of CSS stand in
`UtilityCss.Vocabulary.Css`.
-/

namespace UtilityCss.Vocabulary

/-- Words that open a statement. -/
def keywords : List Text :=
  [['A', 'D', 'D'],
    ['I', 'M', 'P', 'O', 'R', 'T'],
    ['S', 'T', 'Y', 'L', 'E'],
    ['V', 'A', 'R'],
    ['L', 'A', 'Y', 'E', 'R'],
    ['T', 'E', 'M', 'P', 'L', 'A', 'T', 'E']]

/-- Suffixes that expand a property: written after a dollar sign or, where they name a variant,
bare. -/
def identifiers : List Text :=
  [['n', 'o', 'n', 'e'],
    ['a', 'l', 'l'],
    ['l', 'e', 'f', 't'],
    ['r', 'i', 'g', 'h', 't'],
    ['t', 'o', 'p'],
    ['b', 'o', 't', 't', 'o', 'm'],
    ['i', 'n', 'l', 'i', 'n', 'e'],
    ['b', 'l', 'o', 'c', 'k'],
    ['c', 'o', 'l', 'o', 'r'],
    ['c', 'e', 'n', 't', 'e', 'r'],
    ['s', 't', 'a', 'r', 't'],
    ['e', 'n', 'd']]

/-- Units of length and the percent sign. -/
def units : List Text :=
  [['%'],
    ['p', 'x'],
    ['e', 'm'],
    ['r', 'e', 'm'],
    ['v', 'h'],
    ['v', 'w'],
    ['v', 'm', 'i', 'n'],
    ['v', 'm', 'a', 'x'],
    ['m', 'm'],
    ['c', 'm'],
    ['i', 'n'],
    ['p', 't'],
    ['p', 'c'],
    ['c', 'h'],
    ['e', 'x']]

/-- Pseudo-classes by name. -/
def pseudoClasses : List Text :=
  [['h', 'o', 'v', 'e', 'r'],
    ['a', 'c', 't', 'i', 'v', 'e'],
    ['f', 'o', 'c', 'u', 's'],
    ['f', 'o', 'c', 'u', 's', '-', 'v', 'i', 's', 'i', 'b', 'l', 'e'],
    ['f', 'o', 'c', 'u', 's', '-', 'w', 'i', 't', 'h', 'i', 'n'],
    ['v', 'i', 's', 'i', 't', 'e', 'd'],
    ['l', 'i', 'n', 'k'],
    ['t', 'a', 'r', 'g', 'e', 't'],
    ['c', 'h', 'e', 'c', 'k', 'e', 'd'],
    ['d', 'i', 's', 'a', 'b', 'l', 'e', 'd'],
    ['e', 'n', 'a', 'b', 'l', 'e', 'd'],
    ['r', 'e', 'q', 'u', 'i', 'r', 'e', 'd'],
    ['o', 'p', 't', 'i', 'o', 'n', 'a', 'l'],
    ['i', 'n', 'v', 'a', 'l', 'i', 'd'],
    ['v', 'a', 'l', 'i', 'd'],
    ['p', 'l', 'a', 'c', 'e', 'h', 'o', 'l', 'd', 'e', 'r', '-', 's', 'h', 'o', 'w', 'n'],
    ['r', 'e', 'a', 'd', '-', 'o', 'n', 'l', 'y'],
    ['e', 'm', 'p', 't', 'y'],
    ['r', 'o', 'o', 't'],
    ['f', 'i', 'r', 's', 't', '-', 'c', 'h', 'i', 'l', 'd'],
    ['l', 'a', 's', 't', '-', 'c', 'h', 'i', 'l', 'd'],
    ['o', 'n', 'l', 'y', '-', 'c', 'h', 'i', 'l', 'd'],
    ['f', 'i', 'r', 's', 't', '-', 'o', 'f', '-', 't', 'y', 'p', 'e'],
    ['l', 'a', 's', 't', '-', 'o', 'f', '-', 't', 'y', 'p', 'e'],
    ['o', 'n', 'l', 'y', '-', 'o', 'f', '-', 't', 'y', 'p', 'e'],
    ['n', 't', 'h', '-', 'c', 'h', 'i', 'l', 'd'],
    ['n', 't', 'h', '-', 'l', 'a', 's', 't', '-', 'c', 'h', 'i', 'l', 'd'],
    ['n', 't', 'h', '-', 'o', 'f', '-', 't', 'y', 'p', 'e'],
    ['n', 't', 'h', '-', 'l', 'a', 's', 't', '-', 'o', 'f', '-', 't', 'y', 'p', 'e'],
    ['n', 'o', 't'],
    ['i', 's'],
    ['w', 'h', 'e', 'r', 'e'],
    ['h', 'a', 's']]

end UtilityCss.Vocabulary
