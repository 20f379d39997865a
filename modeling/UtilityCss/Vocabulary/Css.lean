import UtilityCss.Text.Basic

/-!
# Words of CSS

The closed lists of CSS words that the language knows: properties, value keywords, functions, and
the groups of properties that treat their values in a special way.  Words are spelled out as lists
of characters, the form in which they are compared.

`properties` is kept in alphabetical order, so that `variants`, which selects from it, lists the
longer properties of a family alphabetically as well.
-/

namespace UtilityCss.Vocabulary

/-! ## Properties -/

/-- The properties that a rule can set, in alphabetical order. -/
def properties : List Text :=
  [['a', 'l', 'i', 'g', 'n', '-', 'c', 'o', 'n', 't', 'e', 'n', 't'],
    ['a', 'l', 'i', 'g', 'n', '-', 'i', 't', 'e', 'm', 's'],
    ['a', 'l', 'i', 'g', 'n', '-', 's', 'e', 'l', 'f'],
    ['a', 'n', 'i', 'm', 'a', 't', 'i', 'o', 'n'],
    ['a', 'n', 'i', 'm', 'a', 't', 'i', 'o', 'n', '-', 'd', 'e', 'l', 'a', 'y'],
    ['a', 'n', 'i', 'm', 'a', 't', 'i', 'o', 'n', '-', 'd', 'i', 'r', 'e', 'c', 't', 'i', 'o', 'n'],
    ['a', 'n', 'i', 'm', 'a', 't', 'i', 'o', 'n', '-', 'd', 'u', 'r', 'a', 't', 'i', 'o', 'n'],
    ['a', 'n', 'i', 'm', 'a', 't', 'i', 'o', 'n', '-', 'f', 'i', 'l', 'l', '-', 'm', 'o', 'd', 'e'],
    ['a', 'n', 'i', 'm', 'a', 't', 'i', 'o', 'n', '-', 'i', 't', 'e', 'r', 'a', 't', 'i', 'o', 'n',
      '-', 'c', 'o', 'u', 'n', 't'],
    ['a', 'n', 'i', 'm', 'a', 't', 'i', 'o', 'n', '-', 'n', 'a', 'm', 'e'],
    ['a', 'n', 'i', 'm', 'a', 't', 'i', 'o', 'n', '-', 'p', 'l', 'a', 'y', '-', 's', 't', 'a', 't',
      'e'],
    ['a', 'n', 'i', 'm', 'a', 't', 'i', 'o', 'n', '-', 't', 'i', 'm', 'i', 'n', 'g', '-', 'f', 'u',
      'n', 'c', 't', 'i', 'o', 'n'],
    ['a', 's', 'p', 'e', 'c', 't', '-', 'r', 'a', 't', 'i', 'o'],
    ['b', 'a', 'c', 'k', 'd', 'r', 'o', 'p', '-', 'f', 'i', 'l', 't', 'e', 'r'],
    ['b', 'a', 'c', 'k', 'g', 'r', 'o', 'u', 'n', 'd'],
    ['b', 'a', 'c', 'k', 'g', 'r', 'o', 'u', 'n', 'd', '-', 'a', 't', 't', 'a', 'c', 'h', 'm', 'e',
      'n', 't'],
    ['b', 'a', 'c', 'k', 'g', 'r', 'o', 'u', 'n', 'd', '-', 'c', 'l', 'i', 'p'],
    ['b', 'a', 'c', 'k', 'g', 'r', 'o', 'u', 'n', 'd', '-', 'c', 'o', 'l', 'o', 'r'],
    ['b', 'a', 'c', 'k', 'g', 'r', 'o', 'u', 'n', 'd', '-', 'i', 'm', 'a', 'g', 'e'],
    ['b', 'a', 'c', 'k', 'g', 'r', 'o', 'u', 'n', 'd', '-', 'p', 'o', 's', 'i', 't', 'i', 'o', 'n'],
    ['b', 'a', 'c', 'k', 'g', 'r', 'o', 'u', 'n', 'd', '-', 'r', 'e', 'p', 'e', 'a', 't'],
    ['b', 'a', 'c', 'k', 'g', 'r', 'o', 'u', 'n', 'd', '-', 's', 'i', 'z', 'e'],
    ['b', 'l', 'o', 'c', 'k', '-', 's', 'i', 'z', 'e'],
    ['b', 'o', 'r', 'd', 'e', 'r'],
    ['b', 'o', 'r', 'd', 'e', 'r', '-', 'b', 'l', 'o', 'c', 'k'],
    ['b', 'o', 'r', 'd', 'e', 'r', '-', 'b', 'o', 't', 't', 'o', 'm'],
    ['b', 'o', 'r', 'd', 'e', 'r', '-', 'b', 'o', 't', 't', 'o', 'm', '-', 'l', 'e', 'f', 't', '-',
      'r', 'a', 'd', 'i', 'u', 's'],
    ['b', 'o', 'r', 'd', 'e', 'r', '-', 'b', 'o', 't', 't', 'o', 'm', '-', 'r', 'i', 'g', 'h', 't',
      '-', 'r', 'a', 'd', 'i', 'u', 's'],
    ['b', 'o', 'r', 'd', 'e', 'r', '-', 'c', 'o', 'l', 'l', 'a', 'p', 's', 'e'],
    ['b', 'o', 'r', 'd', 'e', 'r', '-', 'c', 'o', 'l', 'o', 'r'],
    ['b', 'o', 'r', 'd', 'e', 'r', '-', 'i', 'n', 'l', 'i', 'n', 'e'],
    ['b', 'o', 'r', 'd', 'e', 'r', '-', 'l', 'e', 'f', 't'],
    ['b', 'o', 'r', 'd', 'e', 'r', '-', 'r', 'a', 'd', 'i', 'u', 's'],
    ['b', 'o', 'r', 'd', 'e', 'r', '-', 'r', 'i', 'g', 'h', 't'],
    ['b', 'o', 'r', 'd', 'e', 'r', '-', 's', 'p', 'a', 'c', 'i', 'n', 'g'],
    ['b', 'o', 'r', 'd', 'e', 'r', '-', 's', 't', 'y', 'l', 'e'],
    ['b', 'o', 'r', 'd', 'e', 'r', '-', 't', 'o', 'p'],
    ['b', 'o', 'r', 'd', 'e', 'r', '-', 't', 'o', 'p', '-', 'l', 'e', 'f', 't', '-', 'r', 'a', 'd',
      'i', 'u', 's'],
    ['b', 'o', 'r', 'd', 'e', 'r', '-', 't', 'o', 'p', '-', 'r', 'i', 'g', 'h', 't', '-', 'r', 'a',
      'd', 'i', 'u', 's'],
    ['b', 'o', 'r', 'd', 'e', 'r', '-', 'w', 'i', 'd', 't', 'h'],
    ['b', 'o', 't', 't', 'o', 'm'],
    ['b', 'o', 'x', '-', 's', 'h', 'a', 'd', 'o', 'w'],
    ['b', 'o', 'x', '-', 's', 'i', 'z', 'i', 'n', 'g'],
    ['c', 'l', 'e', 'a', 'r'],
    ['c', 'o', 'l', 'o', 'r'],
    ['c', 'o', 'l', 'u', 'm', 'n', '-', 'g', 'a', 'p'],
    ['c', 'o', 'n', 't', 'e', 'n', 't'],
    ['c', 'u', 'r', 's', 'o', 'r'],
    ['d', 'i', 's', 'p', 'l', 'a', 'y'],
    ['f', 'i', 'l', 't', 'e', 'r'],
    ['f', 'l', 'e', 'x'],
    ['f', 'l', 'e', 'x', '-', 'b', 'a', 's', 'i', 's'],
    ['f', 'l', 'e', 'x', '-', 'd', 'i', 'r', 'e', 'c', 't', 'i', 'o', 'n'],
    ['f', 'l', 'e', 'x', '-', 'f', 'l', 'o', 'w'],
    ['f', 'l', 'e', 'x', '-', 'g', 'r', 'o', 'w'],
    ['f', 'l', 'e', 'x', '-', 's', 'h', 'r', 'i', 'n', 'k'],
    ['f', 'l', 'e', 'x', '-', 'w', 'r', 'a', 'p'],
    ['f', 'l', 'o', 'a', 't'],
    ['f', 'o', 'n', 't'],
    ['f', 'o', 'n', 't', '-', 'f', 'a', 'm', 'i', 'l', 'y'],
    ['f', 'o', 'n', 't', '-', 's', 'i', 'z', 'e'],
    ['f', 'o', 'n', 't', '-', 's', 't', 'y', 'l', 'e'],
    ['f', 'o', 'n', 't', '-', 'v', 'a', 'r', 'i', 'a', 'n', 't'],
    ['f', 'o', 'n', 't', '-', 'w', 'e', 'i', 'g', 'h', 't'],
    ['g', 'a', 'p'],
    ['g', 'r', 'i', 'd'],
    ['g', 'r', 'i', 'd', '-', 'a', 'r', 'e', 'a'],
    ['g', 'r', 'i', 'd', '-', 'a', 'u', 't', 'o', '-', 'c', 'o', 'l', 'u', 'm', 'n', 's'],
    ['g', 'r', 'i', 'd', '-', 'a', 'u', 't', 'o', '-', 'f', 'l', 'o', 'w'],
    ['g', 'r', 'i', 'd', '-', 'a', 'u', 't', 'o', '-', 'r', 'o', 'w', 's'],
    ['g', 'r', 'i', 'd', '-', 'c', 'o', 'l', 'u', 'm', 'n'],
    ['g', 'r', 'i', 'd', '-', 'c', 'o', 'l', 'u', 'm', 'n', '-', 'e', 'n', 'd'],
    ['g', 'r', 'i', 'd', '-', 'c', 'o', 'l', 'u', 'm', 'n', '-', 's', 't', 'a', 'r', 't'],
    ['g', 'r', 'i', 'd', '-', 'r', 'o', 'w'],
    ['g', 'r', 'i', 'd', '-', 'r', 'o', 'w', '-', 'e', 'n', 'd'],
    ['g', 'r', 'i', 'd', '-', 'r', 'o', 'w', '-', 's', 't', 'a', 'r', 't'],
    ['g', 'r', 'i', 'd', '-', 't', 'e', 'm', 'p', 'l', 'a', 't', 'e'],
    ['g', 'r', 'i', 'd', '-', 't', 'e', 'm', 'p', 'l', 'a', 't', 'e', '-', 'a', 'r', 'e', 'a', 's'],
    ['g', 'r', 'i', 'd', '-', 't', 'e', 'm', 'p', 'l', 'a', 't', 'e', '-', 'c', 'o', 'l', 'u', 'm',
      'n', 's'],
    ['g', 'r', 'i', 'd', '-', 't', 'e', 'm', 'p', 'l', 'a', 't', 'e', '-', 'r', 'o', 'w', 's'],
    ['h', 'e', 'i', 'g', 'h', 't'],
    ['i', 'n', 'l', 'i', 'n', 'e', '-', 's', 'i', 'z', 'e'],
    ['i', 'n', 's', 'e', 't'],
    ['j', 'u', 's', 't', 'i', 'f', 'y', '-', 'c', 'o', 'n', 't', 'e', 'n', 't'],
    ['j', 'u', 's', 't', 'i', 'f', 'y', '-', 'i', 't', 'e', 'm', 's'],
    ['j', 'u', 's', 't', 'i', 'f', 'y', '-', 's', 'e', 'l', 'f'],
    ['l', 'e', 'f', 't'],
    ['l', 'e', 't', 't', 'e', 'r', '-', 's', 'p', 'a', 'c', 'i', 'n', 'g'],
    ['l', 'i', 'n', 'e', '-', 'h', 'e', 'i', 'g', 'h', 't'],
    ['l', 'i', 's', 't', '-', 's', 't', 'y', 'l', 'e'],
    ['l', 'i', 's', 't', '-', 's', 't', 'y', 'l', 'e', '-', 'p', 'o', 's', 'i', 't', 'i', 'o', 'n'],
    ['l', 'i', 's', 't', '-', 's', 't', 'y', 'l', 'e', '-', 't', 'y', 'p', 'e'],
    ['m', 'a', 'r', 'g', 'i', 'n'],
    ['m', 'a', 'r', 'g', 'i', 'n', '-', 'b', 'l', 'o', 'c', 'k'],
    ['m', 'a', 'r', 'g', 'i', 'n', '-', 'b', 'l', 'o', 'c', 'k', '-', 'e', 'n', 'd'],
    ['m', 'a', 'r', 'g', 'i', 'n', '-', 'b', 'l', 'o', 'c', 'k', '-', 's', 't', 'a', 'r', 't'],
    ['m', 'a', 'r', 'g', 'i', 'n', '-', 'b', 'o', 't', 't', 'o', 'm'],
    ['m', 'a', 'r', 'g', 'i', 'n', '-', 'i', 'n', 'l', 'i', 'n', 'e'],
    ['m', 'a', 'r', 'g', 'i', 'n', '-', 'i', 'n', 'l', 'i', 'n', 'e', '-', 'e', 'n', 'd'],
    ['m', 'a', 'r', 'g', 'i', 'n', '-', 'i', 'n', 'l', 'i', 'n', 'e', '-', 's', 't', 'a', 'r', 't'],
    ['m', 'a', 'r', 'g', 'i', 'n', '-', 'l', 'e', 'f', 't'],
    ['m', 'a', 'r', 'g', 'i', 'n', '-', 'r', 'i', 'g', 'h', 't'],
    ['m', 'a', 'r', 'g', 'i', 'n', '-', 't', 'o', 'p'],
    ['m', 'a', 'x', '-', 'h', 'e', 'i', 'g', 'h', 't'],
    ['m', 'a', 'x', '-', 'w', 'i', 'd', 't', 'h'],
    ['m', 'i', 'n', '-', 'h', 'e', 'i', 'g', 'h', 't'],
    ['m', 'i', 'n', '-', 'w', 'i', 'd', 't', 'h'],
    ['m', 'i', 'x', '-', 'b', 'l', 'e', 'n', 'd', '-', 'm', 'o', 'd', 'e'],
    ['o', 'b', 'j', 'e', 'c', 't', '-', 'f', 'i', 't'],
    ['o', 'b', 'j', 'e', 'c', 't', '-', 'p', 'o', 's', 'i', 't', 'i', 'o', 'n'],
    ['o', 'p', 'a', 'c', 'i', 't', 'y'],
    ['o', 'r', 'd', 'e', 'r'],
    ['o', 'u', 't', 'l', 'i', 'n', 'e'],
    ['o', 'u', 't', 'l', 'i', 'n', 'e', '-', 'c', 'o', 'l', 'o', 'r'],
    ['o', 'u', 't', 'l', 'i', 'n', 'e', '-', 'o', 'f', 'f', 's', 'e', 't'],
    ['o', 'u', 't', 'l', 'i', 'n', 'e', '-', 's', 't', 'y', 'l', 'e'],
    ['o', 'u', 't', 'l', 'i', 'n', 'e', '-', 'w', 'i', 'd', 't', 'h'],
    ['o', 'v', 'e', 'r', 'f', 'l', 'o', 'w'],
    ['o', 'v', 'e', 'r', 'f', 'l', 'o', 'w', '-', 'x'],
    ['o', 'v', 'e', 'r', 'f', 'l', 'o', 'w', '-', 'y'],
    ['p', 'a', 'd', 'd', 'i', 'n', 'g'],
    ['p', 'a', 'd', 'd', 'i', 'n', 'g', '-', 'b', 'l', 'o', 'c', 'k'],
    ['p', 'a', 'd', 'd', 'i', 'n', 'g', '-', 'b', 'l', 'o', 'c', 'k', '-', 'e', 'n', 'd'],
    ['p', 'a', 'd', 'd', 'i', 'n', 'g', '-', 'b', 'l', 'o', 'c', 'k', '-', 's', 't', 'a', 'r', 't'],
    ['p', 'a', 'd', 'd', 'i', 'n', 'g', '-', 'b', 'o', 't', 't', 'o', 'm'],
    ['p', 'a', 'd', 'd', 'i', 'n', 'g', '-', 'i', 'n', 'l', 'i', 'n', 'e'],
    ['p', 'a', 'd', 'd', 'i', 'n', 'g', '-', 'i', 'n', 'l', 'i', 'n', 'e', '-', 'e', 'n', 'd'],
    ['p', 'a', 'd', 'd', 'i', 'n', 'g', '-', 'i', 'n', 'l', 'i', 'n', 'e', '-', 's', 't', 'a', 'r',
      't'],
    ['p', 'a', 'd', 'd', 'i', 'n', 'g', '-', 'l', 'e', 'f', 't'],
    ['p', 'a', 'd', 'd', 'i', 'n', 'g', '-', 'r', 'i', 'g', 'h', 't'],
    ['p', 'a', 'd', 'd', 'i', 'n', 'g', '-', 't', 'o', 'p'],
    ['p', 'l', 'a', 'c', 'e', '-', 'c', 'o', 'n', 't', 'e', 'n', 't'],
    ['p', 'l', 'a', 'c', 'e', '-', 'i', 't', 'e', 'm', 's'],
    ['p', 'l', 'a', 'c', 'e', '-', 's', 'e', 'l', 'f'],
    ['p', 'o', 'i', 'n', 't', 'e', 'r', '-', 'e', 'v', 'e', 'n', 't', 's'],
    ['p', 'o', 's', 'i', 't', 'i', 'o', 'n'],
    ['r', 'i', 'g', 'h', 't'],
    ['r', 'o', 'w', '-', 'g', 'a', 'p'],
    ['t', 'e', 'x', 't', '-', 'a', 'l', 'i', 'g', 'n'],
    ['t', 'e', 'x', 't', '-', 'd', 'e', 'c', 'o', 'r', 'a', 't', 'i', 'o', 'n'],
    ['t', 'e', 'x', 't', '-', 'd', 'e', 'c', 'o', 'r', 'a', 't', 'i', 'o', 'n', '-', 'c', 'o', 'l',
      'o', 'r'],
    ['t', 'e', 'x', 't', '-', 'd', 'e', 'c', 'o', 'r', 'a', 't', 'i', 'o', 'n', '-', 'l', 'i', 'n',
      'e'],
    ['t', 'e', 'x', 't', '-', 'd', 'e', 'c', 'o', 'r', 'a', 't', 'i', 'o', 'n', '-', 's', 't', 'y',
      'l', 'e'],
    ['t', 'e', 'x', 't', '-', 'i', 'n', 'd', 'e', 'n', 't'],
    ['t', 'e', 'x', 't', '-', 'o', 'v', 'e', 'r', 'f', 'l', 'o', 'w'],
    ['t', 'e', 'x', 't', '-', 's', 'h', 'a', 'd', 'o', 'w'],
    ['t', 'e', 'x', 't', '-', 't', 'r', 'a', 'n', 's', 'f', 'o', 'r', 'm'],
    ['t', 'o', 'p'],
    ['t', 'r', 'a', 'n', 's', 'f', 'o', 'r', 'm'],
    ['t', 'r', 'a', 'n', 's', 'f', 'o', 'r', 'm', '-', 'o', 'r', 'i', 'g', 'i', 'n'],
    ['t', 'r', 'a', 'n', 's', 'i', 't', 'i', 'o', 'n'],
    ['t', 'r', 'a', 'n', 's', 'i', 't', 'i', 'o', 'n', '-', 'd', 'e', 'l', 'a', 'y'],
    ['t', 'r', 'a', 'n', 's', 'i', 't', 'i', 'o', 'n', '-', 'd', 'u', 'r', 'a', 't', 'i', 'o', 'n'],
    ['t', 'r', 'a', 'n', 's', 'i', 't', 'i', 'o', 'n', '-', 'p', 'r', 'o', 'p', 'e', 'r', 't', 'y'],
    ['t', 'r', 'a', 'n', 's', 'i', 't', 'i', 'o', 'n', '-', 't', 'i', 'm', 'i', 'n', 'g', '-', 'f',
      'u', 'n', 'c', 't', 'i', 'o', 'n'],
    ['u', 's', 'e', 'r', '-', 's', 'e', 'l', 'e', 'c', 't'],
    ['v', 'e', 'r', 't', 'i', 'c', 'a', 'l', '-', 'a', 'l', 'i', 'g', 'n'],
    ['v', 'i', 's', 'i', 'b', 'i', 'l', 'i', 't', 'y'],
    ['w', 'h', 'i', 't', 'e', '-', 's', 'p', 'a', 'c', 'e'],
    ['w', 'i', 'd', 't', 'h'],
    ['w', 'o', 'r', 'd', '-', 'b', 'r', 'e', 'a', 'k'],
    ['w', 'o', 'r', 'd', '-', 's', 'p', 'a', 'c', 'i', 'n', 'g'],
    ['z', '-', 'i', 'n', 'd', 'e', 'x']]

/-- The properties of the family `base`: those that continue its name after a hyphen. -/
def variants (base : Text) : List Text := properties.filter (Text.startsWith (base ++ "-"))

/-- Properties that take a length, so that a bare number stands for pixels. -/
def lengthProperties : List Text :=
  [['w', 'i', 'd', 't', 'h'],
    ['h', 'e', 'i', 'g', 'h', 't'],
    ['m', 'i', 'n', '-', 'w', 'i', 'd', 't', 'h'],
    ['m', 'i', 'n', '-', 'h', 'e', 'i', 'g', 'h', 't'],
    ['m', 'a', 'x', '-', 'w', 'i', 'd', 't', 'h'],
    ['m', 'a', 'x', '-', 'h', 'e', 'i', 'g', 'h', 't'],
    ['i', 'n', 'l', 'i', 'n', 'e', '-', 's', 'i', 'z', 'e'],
    ['b', 'l', 'o', 'c', 'k', '-', 's', 'i', 'z', 'e'],
    ['m', 'a', 'r', 'g', 'i', 'n', '-', 't', 'o', 'p'],
    ['m', 'a', 'r', 'g', 'i', 'n', '-', 'r', 'i', 'g', 'h', 't'],
    ['m', 'a', 'r', 'g', 'i', 'n', '-', 'b', 'o', 't', 't', 'o', 'm'],
    ['m', 'a', 'r', 'g', 'i', 'n', '-', 'l', 'e', 'f', 't'],
    ['m', 'a', 'r', 'g', 'i', 'n', '-', 'b', 'l', 'o', 'c', 'k'],
    ['m', 'a', 'r', 'g', 'i', 'n', '-', 'b', 'l', 'o', 'c', 'k', '-', 's', 't', 'a', 'r', 't'],
    ['m', 'a', 'r', 'g', 'i', 'n', '-', 'b', 'l', 'o', 'c', 'k', '-', 'e', 'n', 'd'],
    ['m', 'a', 'r', 'g', 'i', 'n', '-', 'i', 'n', 'l', 'i', 'n', 'e'],
    ['m', 'a', 'r', 'g', 'i', 'n', '-', 'i', 'n', 'l', 'i', 'n', 'e', '-', 's', 't', 'a', 'r', 't'],
    ['m', 'a', 'r', 'g', 'i', 'n', '-', 'i', 'n', 'l', 'i', 'n', 'e', '-', 'e', 'n', 'd'],
    ['p', 'a', 'd', 'd', 'i', 'n', 'g', '-', 't', 'o', 'p'],
    ['p', 'a', 'd', 'd', 'i', 'n', 'g', '-', 'r', 'i', 'g', 'h', 't'],
    ['p', 'a', 'd', 'd', 'i', 'n', 'g', '-', 'b', 'o', 't', 't', 'o', 'm'],
    ['p', 'a', 'd', 'd', 'i', 'n', 'g', '-', 'l', 'e', 'f', 't'],
    ['p', 'a', 'd', 'd', 'i', 'n', 'g', '-', 'b', 'l', 'o', 'c', 'k'],
    ['p', 'a', 'd', 'd', 'i', 'n', 'g', '-', 'b', 'l', 'o', 'c', 'k', '-', 's', 't', 'a', 'r', 't'],
    ['p', 'a', 'd', 'd', 'i', 'n', 'g', '-', 'b', 'l', 'o', 'c', 'k', '-', 'e', 'n', 'd'],
    ['p', 'a', 'd', 'd', 'i', 'n', 'g', '-', 'i', 'n', 'l', 'i', 'n', 'e'],
    ['p', 'a', 'd', 'd', 'i', 'n', 'g', '-', 'i', 'n', 'l', 'i', 'n', 'e', '-', 's', 't', 'a', 'r',
      't'],
    ['p', 'a', 'd', 'd', 'i', 'n', 'g', '-', 'i', 'n', 'l', 'i', 'n', 'e', '-', 'e', 'n', 'd'],
    ['b', 'o', 'r', 'd', 'e', 'r', '-', 'w', 'i', 'd', 't', 'h'],
    ['b', 'o', 'r', 'd', 'e', 'r', '-', 'r', 'a', 'd', 'i', 'u', 's'],
    ['b', 'o', 'r', 'd', 'e', 'r', '-', 't', 'o', 'p', '-', 'l', 'e', 'f', 't', '-', 'r', 'a', 'd',
      'i', 'u', 's'],
    ['b', 'o', 'r', 'd', 'e', 'r', '-', 't', 'o', 'p', '-', 'r', 'i', 'g', 'h', 't', '-', 'r', 'a',
      'd', 'i', 'u', 's'],
    ['b', 'o', 'r', 'd', 'e', 'r', '-', 'b', 'o', 't', 't', 'o', 'm', '-', 'l', 'e', 'f', 't', '-',
      'r', 'a', 'd', 'i', 'u', 's'],
    ['b', 'o', 'r', 'd', 'e', 'r', '-', 'b', 'o', 't', 't', 'o', 'm', '-', 'r', 'i', 'g', 'h', 't',
      '-', 'r', 'a', 'd', 'i', 'u', 's'],
    ['b', 'o', 'r', 'd', 'e', 'r', '-', 's', 'p', 'a', 'c', 'i', 'n', 'g'],
    ['o', 'u', 't', 'l', 'i', 'n', 'e', '-', 'w', 'i', 'd', 't', 'h'],
    ['o', 'u', 't', 'l', 'i', 'n', 'e', '-', 'o', 'f', 'f', 's', 'e', 't'],
    ['t', 'o', 'p'],
    ['r', 'i', 'g', 'h', 't'],
    ['b', 'o', 't', 't', 'o', 'm'],
    ['l', 'e', 'f', 't'],
    ['i', 'n', 's', 'e', 't'],
    ['g', 'a', 'p'],
    ['r', 'o', 'w', '-', 'g', 'a', 'p'],
    ['c', 'o', 'l', 'u', 'm', 'n', '-', 'g', 'a', 'p'],
    ['f', 'l', 'e', 'x', '-', 'b', 'a', 's', 'i', 's'],
    ['f', 'o', 'n', 't', '-', 's', 'i', 'z', 'e'],
    ['l', 'e', 't', 't', 'e', 'r', '-', 's', 'p', 'a', 'c', 'i', 'n', 'g'],
    ['w', 'o', 'r', 'd', '-', 's', 'p', 'a', 'c', 'i', 'n', 'g'],
    ['t', 'e', 'x', 't', '-', 'i', 'n', 'd', 'e', 'n', 't']]

/-- Properties that take several parts and are not looked into. -/
def compoundProperties : List Text :=
  [['b', 'o', 'r', 'd', 'e', 'r'],
    ['m', 'a', 'r', 'g', 'i', 'n'],
    ['p', 'a', 'd', 'd', 'i', 'n', 'g'],
    ['b', 'a', 'c', 'k', 'g', 'r', 'o', 'u', 'n', 'd'],
    ['f', 'o', 'n', 't'],
    ['a', 'n', 'i', 'm', 'a', 't', 'i', 'o', 'n']]

/-- Properties for which `all` is a value and not a suffix. -/
def allAsValueProperties : List Text :=
  [['t', 'r', 'a', 'n', 's', 'i', 't', 'i', 'o', 'n'],
    ['t', 'r', 'a', 'n', 's', 'i', 't', 'i', 'o', 'n', '-', 'p', 'r', 'o', 'p', 'e', 'r', 't', 'y'],
    ['w', 'i', 'l', 'l', '-', 'c', 'h', 'a', 'n', 'g', 'e']]

/-! ## Values -/

/-- Words that are values on their own. -/
def valueKeywords : List Text :=
  [['a', 'u', 't', 'o'],
    ['i', 'n', 'h', 'e', 'r', 'i', 't'],
    ['i', 'n', 'i', 't', 'i', 'a', 'l'],
    ['u', 'n', 's', 'e', 't'],
    ['r', 'e', 'v', 'e', 'r', 't'],
    ['r', 'e', 'v', 'e', 'r', 't', '-', 'l', 'a', 'y', 'e', 'r'],
    ['n', 'o', 'n', 'e'],
    ['n', 'o', 'r', 'm', 'a', 'l'],
    ['b', 'l', 'o', 'c', 'k'],
    ['i', 'n', 'l', 'i', 'n', 'e'],
    ['i', 'n', 'l', 'i', 'n', 'e', '-', 'b', 'l', 'o', 'c', 'k'],
    ['f', 'l', 'e', 'x'],
    ['i', 'n', 'l', 'i', 'n', 'e', '-', 'f', 'l', 'e', 'x'],
    ['g', 'r', 'i', 'd'],
    ['i', 'n', 'l', 'i', 'n', 'e', '-', 'g', 'r', 'i', 'd'],
    ['c', 'o', 'n', 't', 'e', 'n', 't', 's'],
    ['t', 'a', 'b', 'l', 'e'],
    ['h', 'i', 'd', 'd', 'e', 'n'],
    ['v', 'i', 's', 'i', 'b', 'l', 'e'],
    ['s', 'c', 'r', 'o', 'l', 'l'],
    ['c', 'l', 'i', 'p'],
    ['s', 't', 'a', 't', 'i', 'c'],
    ['r', 'e', 'l', 'a', 't', 'i', 'v', 'e'],
    ['a', 'b', 's', 'o', 'l', 'u', 't', 'e'],
    ['f', 'i', 'x', 'e', 'd'],
    ['s', 't', 'i', 'c', 'k', 'y'],
    ['r', 'o', 'w'],
    ['r', 'o', 'w', '-', 'r', 'e', 'v', 'e', 'r', 's', 'e'],
    ['c', 'o', 'l', 'u', 'm', 'n'],
    ['c', 'o', 'l', 'u', 'm', 'n', '-', 'r', 'e', 'v', 'e', 'r', 's', 'e'],
    ['w', 'r', 'a', 'p'],
    ['n', 'o', 'w', 'r', 'a', 'p'],
    ['w', 'r', 'a', 'p', '-', 'r', 'e', 'v', 'e', 'r', 's', 'e'],
    ['s', 't', 'a', 'r', 't'],
    ['e', 'n', 'd'],
    ['c', 'e', 'n', 't', 'e', 'r'],
    ['s', 't', 'r', 'e', 't', 'c', 'h'],
    ['b', 'a', 's', 'e', 'l', 'i', 'n', 'e'],
    ['f', 'l', 'e', 'x', '-', 's', 't', 'a', 'r', 't'],
    ['f', 'l', 'e', 'x', '-', 'e', 'n', 'd'],
    ['s', 'p', 'a', 'c', 'e', '-', 'b', 'e', 't', 'w', 'e', 'e', 'n'],
    ['s', 'p', 'a', 'c', 'e', '-', 'a', 'r', 'o', 'u', 'n', 'd'],
    ['s', 'p', 'a', 'c', 'e', '-', 'e', 'v', 'e', 'n', 'l', 'y'],
    ['l', 'e', 'f', 't'],
    ['r', 'i', 'g', 'h', 't'],
    ['t', 'o', 'p'],
    ['b', 'o', 't', 't', 'o', 'm'],
    ['b', 'o', 't', 'h'],
    ['b', 'o', 'r', 'd', 'e', 'r', '-', 'b', 'o', 'x'],
    ['c', 'o', 'n', 't', 'e', 'n', 't', '-', 'b', 'o', 'x'],
    ['c', 'o', 'v', 'e', 'r'],
    ['c', 'o', 'n', 't', 'a', 'i', 'n'],
    ['r', 'e', 'p', 'e', 'a', 't'],
    ['n', 'o', '-', 'r', 'e', 'p', 'e', 'a', 't'],
    ['b', 'o', 'l', 'd'],
    ['b', 'o', 'l', 'd', 'e', 'r'],
    ['l', 'i', 'g', 'h', 't', 'e', 'r'],
    ['i', 't', 'a', 'l', 'i', 'c'],
    ['o', 'b', 'l', 'i', 'q', 'u', 'e'],
    ['u', 'n', 'd', 'e', 'r', 'l', 'i', 'n', 'e'],
    ['o', 'v', 'e', 'r', 'l', 'i', 'n', 'e'],
    ['l', 'i', 'n', 'e', '-', 't', 'h', 'r', 'o', 'u', 'g', 'h'],
    ['u', 'p', 'p', 'e', 'r', 'c', 'a', 's', 'e'],
    ['l', 'o', 'w', 'e', 'r', 'c', 'a', 's', 'e'],
    ['c', 'a', 'p', 'i', 't', 'a', 'l', 'i', 'z', 'e'],
    ['j', 'u', 's', 't', 'i', 'f', 'y'],
    ['e', 'l', 'l', 'i', 'p', 's', 'i', 's'],
    ['p', 'r', 'e'],
    ['p', 'r', 'e', '-', 'w', 'r', 'a', 'p'],
    ['b', 'r', 'e', 'a', 'k', '-', 'a', 'l', 'l'],
    ['s', 'e', 'r', 'i', 'f'],
    ['s', 'a', 'n', 's', '-', 's', 'e', 'r', 'i', 'f'],
    ['m', 'o', 'n', 'o', 's', 'p', 'a', 'c', 'e'],
    ['s', 'o', 'l', 'i', 'd'],
    ['d', 'a', 's', 'h', 'e', 'd'],
    ['d', 'o', 't', 't', 'e', 'd'],
    ['d', 'o', 'u', 'b', 'l', 'e'],
    ['g', 'r', 'o', 'o', 'v', 'e'],
    ['r', 'i', 'd', 'g', 'e'],
    ['i', 'n', 's', 'e', 't'],
    ['o', 'u', 't', 's', 'e', 't'],
    ['p', 'o', 'i', 'n', 't', 'e', 'r'],
    ['d', 'e', 'f', 'a', 'u', 'l', 't'],
    ['t', 'e', 'x', 't'],
    ['m', 'o', 'v', 'e'],
    ['n', 'o', 't', '-', 'a', 'l', 'l', 'o', 'w', 'e', 'd'],
    ['g', 'r', 'a', 'b'],
    ['e', 'a', 's', 'e'],
    ['e', 'a', 's', 'e', '-', 'i', 'n'],
    ['e', 'a', 's', 'e', '-', 'o', 'u', 't'],
    ['e', 'a', 's', 'e', '-', 'i', 'n', '-', 'o', 'u', 't'],
    ['l', 'i', 'n', 'e', 'a', 'r'],
    ['i', 'n', 'f', 'i', 'n', 'i', 't', 'e'],
    ['a', 'l', 't', 'e', 'r', 'n', 'a', 't', 'e'],
    ['f', 'o', 'r', 'w', 'a', 'r', 'd', 's'],
    ['b', 'a', 'c', 'k', 'w', 'a', 'r', 'd', 's'],
    ['p', 'a', 'u', 's', 'e', 'd'],
    ['r', 'u', 'n', 'n', 'i', 'n', 'g'],
    ['m', 'a', 'x', '-', 'c', 'o', 'n', 't', 'e', 'n', 't'],
    ['m', 'i', 'n', '-', 'c', 'o', 'n', 't', 'e', 'n', 't'],
    ['f', 'i', 't', '-', 'c', 'o', 'n', 't', 'e', 'n', 't'],
    ['t', 'r', 'a', 'n', 's', 'p', 'a', 'r', 'e', 'n', 't'],
    ['c', 'u', 'r', 'r', 'e', 'n', 't', 'C', 'o', 'l', 'o', 'r'],
    ['b', 'l', 'a', 'c', 'k'],
    ['w', 'h', 'i', 't', 'e'],
    ['r', 'e', 'd'],
    ['g', 'r', 'e', 'e', 'n'],
    ['b', 'l', 'u', 'e'],
    ['y', 'e', 'l', 'l', 'o', 'w'],
    ['o', 'r', 'a', 'n', 'g', 'e'],
    ['p', 'u', 'r', 'p', 'l', 'e'],
    ['p', 'i', 'n', 'k'],
    ['g', 'r', 'a', 'y'],
    ['g', 'r', 'e', 'y'],
    ['s', 'i', 'l', 'v', 'e', 'r'],
    ['n', 'a', 'v', 'y'],
    ['t', 'e', 'a', 'l'],
    ['m', 'a', 'r', 'o', 'o', 'n'],
    ['o', 'l', 'i', 'v', 'e'],
    ['l', 'i', 'm', 'e'],
    ['a', 'q', 'u', 'a'],
    ['f', 'u', 'c', 'h', 's', 'i', 'a'],
    ['c', 'r', 'i', 'm', 's', 'o', 'n'],
    ['g', 'o', 'l', 'd'],
    ['i', 'n', 'd', 'i', 'g', 'o'],
    ['c', 'o', 'r', 'a', 'l'],
    ['t', 'o', 'm', 'a', 't', 'o']]

/-- Functions whose call is a value. -/
def functions : List Text :=
  [['c', 'a', 'l', 'c'],
    ['v', 'a', 'r'],
    ['m', 'i', 'n'],
    ['m', 'a', 'x'],
    ['c', 'l', 'a', 'm', 'p'],
    ['r', 'g', 'b'],
    ['r', 'g', 'b', 'a'],
    ['h', 's', 'l'],
    ['h', 's', 'l', 'a'],
    ['u', 'r', 'l'],
    ['e', 'n', 'v'],
    ['a', 't', 't', 'r'],
    ['l', 'i', 'n', 'e', 'a', 'r', '-', 'g', 'r', 'a', 'd', 'i', 'e', 'n', 't'],
    ['r', 'a', 'd', 'i', 'a', 'l', '-', 'g', 'r', 'a', 'd', 'i', 'e', 'n', 't'],
    ['c', 'o', 'n', 'i', 'c', '-', 'g', 'r', 'a', 'd', 'i', 'e', 'n', 't'],
    ['r', 'e', 'p', 'e', 'a', 't'],
    ['m', 'i', 'n', 'm', 'a', 'x'],
    ['f', 'i', 't', '-', 'c', 'o', 'n', 't', 'e', 'n', 't'],
    ['t', 'r', 'a', 'n', 's', 'l', 'a', 't', 'e'],
    ['t', 'r', 'a', 'n', 's', 'l', 'a', 't', 'e', 'X'],
    ['t', 'r', 'a', 'n', 's', 'l', 'a', 't', 'e', 'Y'],
    ['r', 'o', 't', 'a', 't', 'e'],
    ['s', 'c', 'a', 'l', 'e'],
    ['s', 'k', 'e', 'w'],
    ['c', 'u', 'b', 'i', 'c', '-', 'b', 'e', 'z', 'i', 'e', 'r'],
    ['s', 't', 'e', 'p', 's'],
    ['b', 'l', 'u', 'r'],
    ['b', 'r', 'i', 'g', 'h', 't', 'n', 'e', 's', 's'],
    ['d', 'r', 'o', 'p', '-', 's', 'h', 'a', 'd', 'o', 'w']]

/-- Sizes that are accepted where a length is needed. -/
def intrinsicSizes : List Text :=
  [['m', 'a', 'x', '-', 'c', 'o', 'n', 't', 'e', 'n', 't'],
    ['m', 'i', 'n', '-', 'c', 'o', 'n', 't', 'e', 'n', 't'],
    ['f', 'i', 't', '-', 'c', 'o', 'n', 't', 'e', 'n', 't'],
    ['-', 'w', 'e', 'b', 'k', 'i', 't', '-', 'f', 'i', 'l', 'l', '-', 'a', 'v', 'a', 'i', 'l', 'a',
      'b', 'l', 'e']]

/-- Keywords that every property accepts. -/
def wideKeywords : List Text :=
  [['a', 'u', 't', 'o'],
    ['i', 'n', 'h', 'e', 'r', 'i', 't'],
    ['i', 'n', 'i', 't', 'i', 'a', 'l'],
    ['r', 'e', 'v', 'e', 'r', 't'],
    ['r', 'e', 'v', 'e', 'r', 't', '-', 'l', 'a', 'y', 'e', 'r'],
    ['u', 'n', 's', 'e', 't']]

end UtilityCss.Vocabulary
