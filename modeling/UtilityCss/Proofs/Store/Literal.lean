import UtilityCss.Proofs.Text.Decimal
import UtilityCss.Proofs.Token.Spelling
import UtilityCss.Proofs.Token.Unread
import UtilityCss.Slot

/-!
# Splitting a literal into number and unit

A literal that is bound to a variable is split, and written back when the variable is used.  A text
is a number with a unit in one way only (`Slot.number?_eq_some_iff`).  For a number of the language
the split is the one that its parts suggest (`Slot.number?_written`), so what is written back is the
same but for the sign of zero (`Slot.render_of_number`).  Words and colours are no numbers and stay
whole.
-/

namespace UtilityCss

variable {c : Char} {digits rest sign fraction unit text : Text}

/-! ## Digits -/

lemma not_isDecimalDigit_of_isAlpha (letter : c.isAlpha = true) : isDecimalDigit c = false := by
  have range := Lexer.range_of_isAlpha letter
  by_contra digit
  have ascii : c.toNat < 128 := by omega
  have known := isDigit_of_isDecimalDigit ascii (Bool.eq_true_of_not_eq_false digit)
  exact Bool.false_ne_true ((Lexer.not_isDigit_of_isAlpha letter).symm.trans known)

/-! ## Integers -/

namespace Numeral

lemma eq_of_integer_minus {value : Int} (read : integer ('-' :: digits) = .ok value) :
    value = -(magnitude digits : Int) := by
  rw [integer] at read
  obtain ⟨_, lifted, rfl⟩ := map_eq_ok_iff.1 read
  obtain ⟨n, found, same⟩ := bind_eq_ok_iff.1 lifted
  rw [← Except.ok.inj same, (natural_eq_ok found).2]

lemma eq_of_integer {value : Int} (noSign : digits.head? ≠ some '-')
    (read : integer digits = .ok value) : value = (magnitude digits : Int) := by
  unfold integer at read
  split at read
  · simp at noSign
  · obtain ⟨_, lifted, rfl⟩ := map_eq_ok_iff.1 read
    obtain ⟨n, found, same⟩ := bind_eq_ok_iff.1 lifted
    rw [← Except.ok.inj same, (natural_eq_ok found).2]

lemma ofNat_eq_zero_iff {n : Nat} : Text.ofNat n = ['0'] ↔ n = 0 := by
  constructor
  · intro same
    rw [← magnitude_ofNat n, same]
    decide
  · rintro rfl
    rfl

/-- `Text.ofInt` writes no sign before zero.  Leading zeros are excluded by the form of the digits;
with them more would be lost. -/
lemma ofInt_of_integer {n : Nat} {value : Int} (signed : sign = [] ∨ sign = ['-'])
    (read : integer (sign ++ Text.ofNat n) = .ok value) :
    Text.ofInt value = (if n = 0 then [] else sign) ++ Text.ofNat n := by
  rcases signed with rfl | rfl
  · have noSign : (Text.ofNat n).head? ≠ some '-' := by
      intro minus
      exact absurd (isDigit_of_mem_ofNat (List.mem_of_mem_head? minus)) (by decide)
    rw [eq_of_integer noSign read, magnitude_ofNat, ite_self]
    rfl
  · rw [List.singleton_append] at read
    rw [eq_of_integer_minus read, magnitude_ofNat]
    cases n with
    | zero => rfl
    | succ n => rfl

end Numeral

/-! ## Numbers with their units -/

namespace Slot

open Lexer (IsNumber IsWord)

variable {slot : Slot}

lemma append_denominator (text : Text) :
    (denominator text).1 ++ (denominator text).2 = text := by
  unfold denominator
  split
  · dsimp only
    split
    · rfl
    · rw [List.cons_append, List.takeWhile_append_dropWhile]
  · rfl

/-- A unit as it is written behind a number, which may be left out. -/
def IsUnit (unit : Text) : Prop := ∀ c ∈ unit, isUnitCharacter c = true

/-- A denominator with its slash, which may be left out. -/
def IsDivisor (divisor : Text) : Prop :=
  divisor = [] ∨ ∃ digits, divisor = '/' :: digits ∧ digits ≠ [] ∧
    ∀ c ∈ digits, isDecimalDigit c = true

/-- A decimal or a fraction. -/
def IsNumeral (number : Text) : Prop :=
  ∃ numerator divisor, number = numerator ++ divisor ∧ Numeral.Decimal numerator ∧
    IsDivisor divisor

lemma IsUnit.noDigit (unital : IsUnit unit) : ∀ c ∈ unit.head?, isDecimalDigit c = false := by
  intro c first
  have own := unital c (List.mem_of_mem_head? first)
  simp only [isUnitCharacter, Bool.or_eq_true, beq_iff_eq] at own
  rcases own with letter | rfl
  · exact not_isDecimalDigit_of_isAlpha letter
  · decide

lemma IsUnit.head_ne (unital : IsUnit unit) (other : isUnitCharacter c = false) :
    unit.head? ≠ some c := fun first =>
  Bool.false_ne_true (other.symm.trans (unital c (List.mem_of_mem_head? first)))

lemma isDivisor_denominator (text : Text) : IsDivisor (denominator text).1 := by
  unfold denominator
  split
  · dsimp only
    split
    · exact .inl rfl
    · rename_i given
      exact .inr ⟨_, rfl, given, fun _ => List.mem_takeWhile_imp⟩
  · exact .inl rfl

lemma denominator_append {divisor : Text} (divides : IsDivisor divisor) (unital : IsUnit unit) :
    denominator (divisor ++ unit) = (divisor, unit) := by
  rcases divides with rfl | ⟨digits, rfl, given, run⟩
  · rw [List.nil_append]
    unfold denominator
    split
    · exact absurd rfl (unital.head_ne (c := '/') (by decide))
    · rfl
  · simp only [List.cons_append, denominator, Text.takeWhile_run run unital.noDigit,
      Text.dropWhile_run run unital.noDigit, if_neg given]

/-- A unit begins with a letter or a percent sign (`isUnitCharacter`), and neither goes on with a
decimal or with a denominator. -/
lemma number?_append {number : Text} (numeral : IsNumeral number) (unital : IsUnit unit) :
    number? (number ++ unit) = some (number, unit) := by
  obtain ⟨numerator, divisor, rfl, decimal, divides⟩ := numeral
  have stops : ∀ c ∈ (divisor ++ unit).head?, isDecimalDigit c = false := by
    rcases divides with rfl | ⟨digits, rfl, -⟩
    · exact unital.noDigit
    · rintro c ⟨⟩
      decide
  have noPoint : (divisor ++ unit).head? ≠ some '.' := by
    rcases divides with rfl | ⟨digits, rfl, -⟩
    · exact unital.head_ne (by decide)
    · simp
  have all : unit.takeWhile isUnitCharacter = unit := List.takeWhile_eq_self_iff.2 unital
  have none : unit.dropWhile isUnitCharacter = [] := List.dropWhile_eq_nil_iff.2 unital
  simp only [number?, List.append_assoc, decimal.decimal?_append stops noPoint, Option.bind_some,
    denominator_append divides unital, all, none, true_or, if_true]

/-- The converse of `number?_append`.  The line end is there because `number?` accepts one behind
the unit and drops it. -/
lemma parts_of_number? {number : Text} (split : number? text = some (number, unit)) :
    IsNumeral number ∧ IsUnit unit ∧
      ∃ left, text = number ++ unit ++ left ∧ (left = [] ∨ left = ['\n']) := by
  obtain ⟨⟨numerator, rest⟩, decimal, split⟩ := Option.bind_eq_some_iff.1 split
  dsimp only at split
  split at split
  · rename_i ends
    obtain ⟨rfl, rfl⟩ := Prod.mk.inj (Option.some.inj split)
    refine ⟨⟨numerator, _, rfl, Numeral.decimal_of_decimal? decimal, isDivisor_denominator rest⟩,
      fun _ => List.mem_takeWhile_imp, _, ?_, ends⟩
    rw [List.append_assoc, List.takeWhile_append_dropWhile, List.append_assoc,
      append_denominator, Numeral.append_of_decimal? decimal]
  · simp at split

/-- `number?` as a grammar: there is one way at most to cut a text into `IsNumeral` and `IsUnit`. -/
theorem number?_eq_some_iff {number : Text} (oneLine : '\n' ∉ text) :
    number? text = some (number, unit) ↔
      text = number ++ unit ∧ IsNumeral number ∧ IsUnit unit := by
  constructor
  · intro split
    obtain ⟨numeral, unital, left, rfl, rfl | rfl⟩ := parts_of_number? split
    · exact ⟨List.append_nil _, numeral, unital⟩
    · simp at oneLine
  · rintro ⟨rfl, numeral, unital⟩
    exact number?_append numeral unital

/-- By `IsNumber.body` a number has a digit or a point behind its sign; this is the condition of
`skip_sign`. -/
lemma noSign_written (parts : IsNumber sign digits fraction unit) (rest : Text) :
    (digits ++ (fraction ++ rest)).head? ≠ some '-' := by
  obtain ⟨d, tail, digit, shape | shape⟩ := parts.body rest
  · simpa [shape] using Lexer.ne_of_class digit (by decide : Char.isDigit '-' = false)
  · simp [shape]

lemma isNumeral_written (parts : IsNumber sign digits fraction unit) :
    IsNumeral (sign ++ (digits ++ fraction)) := by
  have run : ∀ c ∈ digits, isDecimalDigit c = true := fun c mem =>
    isDecimalDigit_of_isDigit (parts.digital c mem)
  have decimal (given : digits ≠ []) : Numeral.Decimal (sign ++ digits) :=
    ⟨sign, digits, rfl, parts.signed, [], [], digits, rfl, .inl rfl, given, by simp, run⟩
  rcases parts.fractional with rfl | ⟨mark, decimals, rfl, rfl | rfl, given, fractional⟩
  · exact ⟨_, [], by simp, decimal (by simpa using parts.begins), .inl rfl⟩
  · have inner : ∀ c ∈ decimals, isDecimalDigit c = true := fun c mem =>
      isDecimalDigit_of_isDigit (fractional c mem)
    exact ⟨_, [], (List.append_nil _).symm,
      ⟨sign, _, rfl, parts.signed, digits, ['.'], decimals, rfl, .inr rfl, given, run, inner⟩,
      .inl rfl⟩
  · have inner : ∀ c ∈ decimals, isDecimalDigit c = true := fun c mem =>
      isDecimalDigit_of_isDigit (fractional c mem)
    exact ⟨_, '/' :: decimals, by simp, decimal (by simpa using parts.begins),
      .inr ⟨decimals, rfl, given, inner⟩⟩

theorem number?_written (parts : IsNumber sign digits fraction unit) :
    number? (sign ++ (digits ++ (fraction ++ unit))) =
      some (sign ++ (digits ++ fraction), unit) := by
  have unital : IsUnit unit := fun c mem => by simp [isUnitCharacter, parts.alphabetic c mem]
  simpa using number?_append (isNumeral_written parts) unital

lemma skip_sign {body : Text} (signed : sign = [] ∨ sign = ['-'])
    (noSign : body.head? ≠ some '-') : Text.skip '-' (sign ++ body) = body := by
  rcases signed with rfl | rfl
  · exact Text.skip_of_head?_ne noSign
  · simp [Text.skip]

/-- `isInteger` tests what is behind the sign for digits, and the mark of a fraction is none. -/
lemma isInteger_written (parts : IsNumber sign digits fraction unit) :
    isInteger (sign ++ (digits ++ fraction)) = true ↔ fraction = [] := by
  have noSign : (digits ++ fraction).head? ≠ some '-' := by
    simpa using noSign_written parts []
  rw [isInteger, skip_sign parts.signed noSign]
  rcases parts.fractional with rfl | ⟨mark, decimals, rfl, marked, -⟩
  · simpa using fun c mem => isDecimalDigit_of_isDigit (parts.digital c mem)
  · have noDigit : isDecimalDigit mark = false := by
      rcases marked with rfl | rfl <;> decide
    simp [noDigit]

/-- An integer is read as a value and written back by `Text.ofInt`, which is where the sign of zero
is lost (`Numeral.ofInt_of_integer`); any other number is kept as a text. -/
theorem render_of_number (parts : IsNumber sign digits fraction unit)
    (canonical : fraction = [] → ∃ n, digits = Text.ofNat n)
    (split : read (sign ++ (digits ++ (fraction ++ unit))) = .ok slot) :
    slot.render none =
        (if fraction = [] ∧ digits = ['0'] then [] else sign) ++ (digits ++ (fraction ++ unit)) ∧
      (unit = [] → slot.unit = none) := by
  have own : ((if unit = [] then none else some unit).getD [] : Text) = unit := by
    by_cases bare : unit = [] <;> simp [bare]
  rw [read, number?_written parts] at split
  simp only at split
  by_cases integral : fraction = []
  · obtain ⟨n, rfl⟩ := canonical integral
    subst integral
    rw [if_pos ((isInteger_written parts).2 rfl), List.append_nil] at split
    obtain ⟨value, found, rfl⟩ := map_eq_ok_iff.1 split
    refine ⟨?_, fun bare => by simp [bare]⟩
    simp [render, Scalar.toText, own, Numeral.ofInt_of_integer parts.signed found,
      Numeral.ofNat_eq_zero_iff]
  · rw [if_neg (mt (isInteger_written parts).1 integral)] at split
    obtain rfl := Except.ok.inj split
    refine ⟨?_, fun bare => by simp [bare]⟩
    simp [render, Scalar.toText, own, integral]

/-! ## Texts that are no numbers -/

lemma read_of_number?_eq_none (whole : number? text = none) :
    read text = .ok ⟨.text text, none⟩ := by
  rw [read, whole]

/-- Without digits in front `unsigned?` asks for a point, so that the first character decides. -/
lemma unsigned?_eq_none (noDigit : ∀ c ∈ text.head?, isDecimalDigit c = false)
    (noPoint : text.head? ≠ some '.') : Numeral.unsigned? text = none := by
  have none : text.takeWhile isDecimalDigit = [] := by
    cases text with
    | nil => rfl
    | cons c text => simp [noDigit c rfl]
  have all : text.dropWhile isDecimalDigit = text := by
    cases text with
    | nil => rfl
    | cons c text => simp [noDigit c rfl]
  simp [Numeral.unsigned?, none, all, noPoint]

lemma decimal?_color (digits : Text) : Numeral.decimal? ('#' :: digits) = none := by
  have none : Numeral.unsigned? ('#' :: digits) = none := by
    refine unsigned?_eq_none ?_ (by simp)
    rintro c ⟨⟩
    decide
  simp [Numeral.decimal?, none]

lemma read_color (digits : Text) : read ('#' :: digits) = .ok ⟨.text ('#' :: digits), none⟩ :=
  read_of_number?_eq_none (by simp [number?, decimal?_color])

/-- The lexer knows ASCII digits only and `Slot.read` those of any script; that a word does not
begin with a number for the one says so for the other because its characters are ASCII
(`isDigit_of_isDecimalDigit`). -/
lemma read_word {word : Text} (shape : IsWord word) : read word = .ok ⟨.text word, none⟩ := by
  have part : ∀ c ∈ (Text.skip '-' word).head?, Lexer.isWordPart c = true := by
    intro c first
    exact shape.parts c ((Lexer.skip_suffix '-' word).mem (List.mem_of_mem_head? first))
  have noPoint : (Text.skip '-' word).head? ≠ some '.' := by
    intro point
    exact absurd (part '.' point) (by decide)
  have noDigit : ∀ c ∈ (Text.skip '-' word).head?, isDecimalDigit c = false := by
    intro c first
    have noNumber := shape.noNumber
    by_contra digit
    have range := Lexer.range_of_isWordPart (part c first)
    have ascii : c.toNat < 128 := by omega
    have known := isDigit_of_isDecimalDigit ascii (Bool.eq_true_of_not_eq_false digit)
    obtain ⟨tail, spelled⟩ := List.head?_eq_some_iff.1 first
    have other : c ≠ '.' := Lexer.ne_of_class known (by decide)
    rw [Lexer.beginsNumber, spelled] at noNumber
    simp [Text.skip, other, known] at noNumber
  have none := unsigned?_eq_none noDigit noPoint
  have noDecimal : Numeral.decimal? word = Option.none := by
    unfold Numeral.decimal?
    split
    · simpa [Text.skip] using none
    · rename_i noSign
      cases word with
      | nil => rfl
      | cons c word =>
        have plain : c ≠ '-' := fun same => noSign word (same ▸ rfl)
        simpa [Text.skip, plain] using none
  exact read_of_number?_eq_none (by simp [number?, noDecimal])

end Slot

end UtilityCss
