import UtilityCss.Text.DecimalDigit

/-!
# Numerals

Numbers are written with the decimal digits of any script.  An integer numeral is read into an
integer (`Numeral.integer`) as long as it has at most `Numeral.digitLimit` digits; a decimal is
recognised and kept as it was written.  `Numeral.decimal?` takes the longest decimal off the front
of a text: an optional minus sign, then digits with an optional fraction, or a fraction alone.
-/

namespace UtilityCss

/-- An integer numeral has too many digits to be read. -/
structure IntegerTooLong where
  digits : Nat
deriving DecidableEq, Repr

namespace Numeral

/-- The greatest number of digits of an integer numeral. -/
def digitLimit : Nat := 4300

/-- The number that a row of digits denotes. -/
def magnitude (digits : Text) : Nat :=
  digits.foldl (fun n digit => 10 * n + (digitValue? digit).getD 0) 0

/-- The number that a row of digits denotes, if there are not too many of them. -/
def natural (digits : Text) : Except IntegerTooLong Nat :=
  if digits.length ≤ digitLimit then .ok (magnitude digits) else .error ⟨digits.length⟩

/-- The integer that digits with an optional minus sign denote. -/
def integer : Text → Except IntegerTooLong Int
  | '-' :: digits => (natural digits).map fun n => -(n : Int)
  | digits => (natural digits).map fun n => (n : Int)

/-- The longest decimal without a sign at the start of a text, and what follows it. -/
def unsigned? (text : Text) : Option (Text × Text) :=
  let whole := text.takeWhile isDecimalDigit
  let rest := text.dropWhile isDecimalDigit
  let fraction := (Text.skip '.' rest).takeWhile isDecimalDigit
  if rest.head? = some '.' ∧ fraction ≠ [] then
    some (whole ++ '.' :: fraction, (Text.skip '.' rest).dropWhile isDecimalDigit)
  else if whole ≠ [] then some (whole, rest)
  else none

/-- The longest decimal at the start of a text, and what follows it. -/
def decimal? : Text → Option (Text × Text)
  | '-' :: rest => (unsigned? rest).map fun (number, rest) => ('-' :: number, rest)
  | text => unsigned? text

/-- A digit in base sixteen. -/
def isHexDigit (c : Char) : Bool :=
  c.isDigit || ('a' ≤ c && c ≤ 'f') || ('A' ≤ c && c ≤ 'F')

/-- Is the whole text a decimal? -/
def isDecimal (text : Text) : Bool := (decimal? text).any fun (_, rest) => rest.isEmpty

end Numeral

/-- The wording for a numeral with too many digits. -/
def IntegerTooLong.message (e : IntegerTooLong) : Text :=
  "Exceeds the limit (" ++ Text.ofNat Numeral.digitLimit ++
    " digits) for integer string conversion: value has " ++ Text.ofNat e.digits ++
    " digits; use sys.set_int_max_str_digits() to increase the limit"

end UtilityCss
