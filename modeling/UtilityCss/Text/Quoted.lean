import UtilityCss.Text.Printable

/-!
# Quoted text

`Text.quoted` writes a text between quotes so that every character of it can be told: the quote in
use and the backslash are escaped, line ends and tabs have their letters, and any other character
that is not printable is written by its code point.  Single quotes are used unless the text holds
one and no double quote.
-/

namespace UtilityCss.Text

/-- A number in base sixteen, filled up with zeros to the given width. -/
def hex (width n : Nat) : Text := (Nat.toDigits 16 n).leftpad width '0'

/-- One character as it is written between the given quotes. -/
def escaped (quote c : Char) : Text :=
  if c = quote || c = '\\' then ['\\', c]
  else if c = '\n' then "\\n"
  else if c = '\r' then "\\r"
  else if c = '\t' then "\\t"
  else if isPrintable c then [c]
  else if c.toNat < 0x100 then "\\x" ++ hex 2 c.toNat
  else if c.toNat < 0x10000 then "\\u" ++ hex 4 c.toNat
  else "\\U" ++ hex 8 c.toNat

/-- The quote for a text: the single one, unless only the double one spares an escape. -/
def quoteFor (text : Text) : Char :=
  if '\x27' ∈ text ∧ '"' ∉ text then '"' else '\x27'

/-- The text between quotes, with escapes. -/
def quoted (text : Text) : Text :=
  [quoteFor text] ++ text.flatMap (escaped (quoteFor text)) ++ [quoteFor text]

end UtilityCss.Text
