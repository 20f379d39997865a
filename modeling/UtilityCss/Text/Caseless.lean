import UtilityCss.Text.Basic

/-!
# Comparison without regard to case

`Text.caseless` compares a text with a word in small ASCII letters.  Besides the capital letters,
four characters beyond ASCII count as forms of a letter: the dotted capital and the dotless small i,
the long s and the Kelvin sign.
-/

namespace UtilityCss

/-- Is the character a form of the small ASCII letter? -/
def isFormOf (letter c : Char) : Bool :=
  c.toLower = letter ||
    match letter with
    | 'i' => c = 'İ' || c = 'ı'
    | 's' => c = 'ſ'
    | 'k' => c.toNat = 0x212A
    | _ => false

/-- Does the text spell the word, which is in small letters, in any case? -/
def Text.caseless : (word text : Text) → Bool
  | [], [] => true
  | letter :: word, c :: text => isFormOf letter c && caseless word text
  | _, _ => false

end UtilityCss
