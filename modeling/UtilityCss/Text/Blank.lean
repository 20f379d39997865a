import UtilityCss.Text.CodeRange

/-!
# Blank characters

`isBlank` is Unicode white space together with the four separators U+001C to U+001F.  The
zero-width space U+200B and the byte order mark U+FEFF are not blank.

On it stand `Text.trim`, which removes blanks at both ends, `Text.words`, which splits a text at
its runs of blanks, and `isGap`, a blank that does not end the line.
-/

namespace UtilityCss

/-- The ranges of blank characters. -/
def blankRanges : List CodeRange :=
  [⟨0x09, 0x0D⟩, ⟨0x1C, 0x20⟩, ⟨0x85, 0x85⟩, ⟨0xA0, 0xA0⟩, ⟨0x1680, 0x1680⟩, ⟨0x2000, 0x200A⟩,
    ⟨0x2028, 0x2029⟩, ⟨0x202F, 0x202F⟩, ⟨0x205F, 0x205F⟩, ⟨0x3000, 0x3000⟩]

/-- White space, line ends included. -/
def isBlank (c : Char) : Bool := CodeRange.covered blankRanges c

/-- White space that does not end the line. -/
def isGap (c : Char) : Bool := isBlank c && c != '\n'

namespace Text

/-- The text without blanks at its start. -/
def trimStart (text : Text) : Text := text.dropWhile isBlank

/-- The text without blanks at its end. -/
def trimEnd (text : Text) : Text := (text.reverse.dropWhile isBlank).reverse

/-- The text without blanks at either end. -/
def trim (text : Text) : Text := trimEnd (trimStart text)

/-- The maximal runs of characters that are not blank, in order. -/
def words (text : Text) : List Text := (text.splitOnP isBlank).filter (· ≠ [])

end Text

end UtilityCss
