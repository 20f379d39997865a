import UtilityCss.Proofs.Store.Literal

/-!
# What is lost when a text is split

Any text may be split into a number and a unit, not only the literals of the language.  What comes
out is said by the form of the text (`Slot.Splits`): an integer and its unit, another number and its
unit, or the text itself.  Written back, all of them are the text again, except that the value of an
integer does not know how the integer was spelled.  So the text is lost exactly when it is an
integer with leading zeros or minus zero (`Slot.read_splits`).
-/

namespace UtilityCss.Slot

variable {text number unit sign digits : Text} {slot : Slot}

/-! ## Integers -/

/-- Digits, perhaps with a minus sign before them. -/
structure IsWhole (sign digits : Text) : Prop where
  signed : sign = [] ∨ sign = ['-']
  given : digits ≠ []
  digital : ∀ c ∈ digits, isDecimalDigit c = true

/-- The integer that digits denote behind a sign. -/
def wholeValue (sign digits : Text) : Int :=
  if sign = [] then (Nat.ofDigitChars 10 digits 0 : Int) else -(Nat.ofDigitChars 10 digits 0 : Int)

/-- The unit that was written, if any. -/
def writtenUnit (unit : Text) : Option Text := if unit = [] then none else some unit

/-- What a text is split into. -/
structure Splits (text : Text) (slot : Slot) : Prop where
  /-- An integer becomes its value. -/
  integer : ∀ sign digits unit, IsWhole sign digits → IsUnit unit → text = sign ++ digits ++ unit →
    slot = ⟨.integer (wholeValue sign digits), writtenUnit unit⟩
  /-- A number that is no integer keeps its spelling. -/
  number : (∀ sign digits unit, IsWhole sign digits → IsUnit unit →
      text ≠ sign ++ digits ++ unit) →
    ∀ number unit, IsNumeral number → IsUnit unit → text = number ++ unit →
      slot = ⟨.text number, writtenUnit unit⟩
  /-- A text that is no number is kept whole. -/
  whole : (∀ number unit, IsNumeral number → IsUnit unit → text ≠ number ++ unit) →
    slot = ⟨.text text, none⟩

/-- The text is an integer with leading zeros or minus zero, perhaps with a unit. -/
def Respelled (text : Text) : Prop :=
  ∃ sign digits unit, IsWhole sign digits ∧ IsUnit unit ∧ text = sign ++ digits ++ unit ∧
    (1 < digits.length ∧ digits.head? = some '0' ∨ sign = ['-'] ∧ digits = ['0'])

lemma IsWhole.noSign (whole : IsWhole sign digits) : digits.head? ≠ some '-' := by
  intro minus
  have digit := whole.digital '-' (List.mem_of_mem_head? minus)
  exact absurd digit (by decide)

lemma IsWhole.isNumeral (whole : IsWhole sign digits) : IsNumeral (sign ++ digits) :=
  ⟨sign ++ digits, [], (List.append_nil _).symm,
    ⟨sign, digits, rfl, whole.signed, [], [], digits, rfl, .inl rfl, whole.given, by simp,
      whole.digital⟩, .inl rfl⟩

/-- `isInteger` is a test of the spelling and `IsWhole` a form; a point or a slash is no digit. -/
lemma isInteger_iff (numeral : IsNumeral number) :
    isInteger number = true ↔ ∃ sign digits, IsWhole sign digits ∧ number = sign ++ digits := by
  constructor
  · intro integral
    obtain ⟨_, divisor, rfl, ⟨sign, body, rfl, signed, unsigned⟩, -⟩ := numeral
    rw [isInteger, List.append_assoc, skip_sign signed (unsigned.noSign divisor),
      List.all_eq_true] at integral
    obtain ⟨whole, point, decimals, rfl, -, given, -⟩ := unsigned
    exact ⟨sign, _, ⟨signed, by simp [given], integral⟩, List.append_assoc _ _ _⟩
  · rintro ⟨sign, digits, whole, rfl⟩
    rw [isInteger, skip_sign whole.signed whole.noSign, List.all_eq_true]
    exact whole.digital

/-! ## Reading -/

lemma integer_of_whole (whole : IsWhole sign digits) (ascii : ∀ c ∈ digits, c.toNat < 128)
    (short : digits.length ≤ Numeral.digitLimit) :
    Numeral.integer (sign ++ digits) = .ok (wholeValue sign digits) := by
  have run : ∀ c ∈ digits, c.isDigit = true := fun c mem =>
    isDigit_of_isDecimalDigit (ascii c mem) (whole.digital c mem)
  have read : Numeral.natural digits = .ok (Nat.ofDigitChars 10 digits 0) := by
    rw [Numeral.natural, if_pos short, Numeral.magnitude_eq_ofDigitChars run]
  rcases whole.signed with rfl | rfl
  · have noSign := whole.noSign
    unfold Numeral.integer
    split
    · simp_all
    · rw [List.nil_append, read]
      rfl
  · rw [List.singleton_append, Numeral.integer, read]
    rfl

lemma read_whole (whole : IsWhole sign digits) (unital : IsUnit unit)
    (ascii : ∀ c ∈ digits, c.toNat < 128) (short : digits.length ≤ Numeral.digitLimit) :
    read (sign ++ digits ++ unit) =
      .ok ⟨.integer (wholeValue sign digits), writtenUnit unit⟩ := by
  have integral := (isInteger_iff whole.isNumeral).2 ⟨sign, digits, whole, rfl⟩
  simp only [read, number?_append whole.isNumeral unital, if_pos integral,
    integer_of_whole whole ascii short]
  rfl

lemma read_numeral (numeral : IsNumeral number) (unital : IsUnit unit)
    (noWhole : ∀ sign digits, IsWhole sign digits → number ≠ sign ++ digits) :
    read (number ++ unit) = .ok ⟨.text number, writtenUnit unit⟩ := by
  have noInteger : ¬isInteger number = true := by
    rw [isInteger_iff numeral]
    rintro ⟨sign, digits, whole, same⟩
    exact noWhole sign digits whole same
  simp only [read, number?_append numeral unital, if_neg noInteger]
  rfl

lemma read_other (oneLine : '\n' ∉ text)
    (noNumber : ∀ number unit, IsNumeral number → IsUnit unit → text ≠ number ++ unit) :
    read text = .ok ⟨.text text, none⟩ := by
  refine read_of_number?_eq_none ?_
  rw [Option.eq_none_iff_forall_ne_some]
  rintro ⟨number, unit⟩ split
  obtain ⟨same, numeral, unital⟩ := (number?_eq_some_iff oneLine).1 split
  exact noNumber number unit numeral unital same

/-! ## Writing back -/

lemma render_writtenUnit (value : Scalar) (unit : Text) :
    render ⟨value, writtenUnit unit⟩ none = value.toText ++ unit := by
  by_cases bare : unit = [] <;> simp [render, writtenUnit, bare]

lemma ofInt_neg (n : Nat) :
    Text.ofInt (-(n : Int)) = if n = 0 then ['0'] else '-' :: Text.ofNat n := by
  cases n with
  | zero => rfl
  | succ n => rfl

/-- `Numeral.ofNat_magnitude_eq_iff` settles the leading zeros; minus zero has to be told apart
because `ofInt` writes it without the sign. -/
lemma ofInt_wholeValue_iff (whole : IsWhole sign digits) (ascii : ∀ c ∈ digits, c.toNat < 128) :
    Text.ofInt (wholeValue sign digits) = sign ++ digits ↔
      ¬(1 < digits.length ∧ digits.head? = some '0' ∨ sign = ['-'] ∧ digits = ['0']) := by
  have run : ∀ c ∈ digits, c.isDigit = true := fun c mem =>
    isDigit_of_isDecimalDigit (ascii c mem) (whole.digital c mem)
  have canonical := Numeral.ofNat_magnitude_eq_iff run whole.given
  rw [wholeValue, ← Numeral.magnitude_eq_ofDigitChars run]
  rcases whole.signed with rfl | rfl
  · rw [if_pos rfl, List.nil_append]
    refine canonical.trans ?_
    simp
  · rw [if_neg (List.cons_ne_nil _ _), ofInt_neg, List.singleton_append]
    have zero : Numeral.magnitude digits = 0 → Text.ofNat (Numeral.magnitude digits) = ['0'] := by
      intro none
      rw [none]
      rfl
    constructor
    · intro same
      split at same
      · simp at same
      · rename_i positive
        have same := (List.cons.inj same).2
        rintro (⟨long, first⟩ | ⟨-, rfl⟩)
        · exact canonical.1 same long first
        · exact positive rfl
    · intro spelled
      have same := canonical.2 fun long first => spelled (.inl ⟨long, first⟩)
      rw [if_neg fun none => spelled (.inr ⟨rfl, same.symm.trans (zero none)⟩), same]

lemma IsWhole.unique {other others : Text} (whole : IsWhole sign digits)
    (also : IsWhole other others) (same : sign ++ digits = other ++ others) :
    sign = other ∧ digits = others := by
  have body : digits = others := by
    rw [← skip_sign whole.signed whole.noSign, same, skip_sign also.signed also.noSign]
  subst body
  exact ⟨List.append_cancel_right same, rfl⟩

/-- `Respelled` asks for some way to cut the text, and there is only one: `number?_append` for the
unit, `IsWhole.unique` for the sign. -/
lemma respelled_iff (whole : IsWhole sign digits) (unital : IsUnit unit) :
    Respelled (sign ++ digits ++ unit) ↔
      1 < digits.length ∧ digits.head? = some '0' ∨ sign = ['-'] ∧ digits = ['0'] := by
  constructor
  · rintro ⟨other, others, end', also, unital', spelled, respelled⟩
    have split := number?_append whole.isNumeral unital
    rw [spelled, number?_append also.isNumeral unital'] at split
    obtain ⟨rfl, rfl⟩ := whole.unique also (Prod.mk.inj (Option.some.inj split)).1.symm
    exact respelled
  · exact fun respelled => ⟨sign, digits, unit, whole, unital, rfl, respelled⟩

/-! ## The whole text -/

lemma read_of_whole (ascii : ∀ c ∈ text, c.toNat < 128)
    (short : text.countP isDecimalDigit ≤ Numeral.digitLimit) (whole : IsWhole sign digits)
    (unital : IsUnit unit) (spelled : text = sign ++ digits ++ unit) :
    read text = .ok ⟨.integer (wholeValue sign digits), writtenUnit unit⟩ := by
  subst spelled
  refine read_whole whole unital (fun c mem => ascii c (by simp [mem])) (Nat.le_trans ?_ short)
  rw [List.countP_append, List.countP_append, List.countP_eq_length.2 whole.digital]
  omega

lemma splits_of_read (ascii : ∀ c ∈ text, c.toNat < 128) (oneLine : '\n' ∉ text)
    (short : text.countP isDecimalDigit ≤ Numeral.digitLimit) (taken : read text = .ok slot) :
    Splits text slot where
  integer _ _ _ whole unital spelled :=
    Except.ok.inj (taken.symm.trans (read_of_whole ascii short whole unital spelled))
  number noWhole number unit numeral unital spelled := by
    subst spelled
    refine Except.ok.inj (taken.symm.trans (read_numeral numeral unital ?_))
    rintro sign digits whole rfl
    exact noWhole sign digits unit whole unital rfl
  whole noNumber := Except.ok.inj (taken.symm.trans (read_other oneLine noNumber))

lemma exists_read (ascii : ∀ c ∈ text, c.toNat < 128) (oneLine : '\n' ∉ text)
    (short : text.countP isDecimalDigit ≤ Numeral.digitLimit) :
    ∃ slot, read text = .ok slot ∧ (slot.render none = text ↔ ¬Respelled text) := by
  by_cases integral : ∃ sign digits unit, IsWhole sign digits ∧ IsUnit unit ∧
      text = sign ++ digits ++ unit
  · obtain ⟨sign, digits, unit, whole, unital, spelled⟩ := integral
    refine ⟨_, read_of_whole ascii short whole unital spelled, ?_⟩
    subst spelled
    have ascii : ∀ c ∈ digits, c.toNat < 128 := fun c mem => ascii c (by simp [mem])
    rw [render_writtenUnit, respelled_iff whole unital, ← ofInt_wholeValue_iff whole ascii]
    exact List.append_left_inj unit
  have kept : ¬Respelled text := fun ⟨sign, digits, unit, whole, unital, spelled, _⟩ =>
    integral ⟨sign, digits, unit, whole, unital, spelled⟩
  by_cases numeral : ∃ number unit, IsNumeral number ∧ IsUnit unit ∧ text = number ++ unit
  · obtain ⟨number, unit, numeral, unital, rfl⟩ := numeral
    refine ⟨_, read_numeral numeral unital ?_, iff_of_true (render_writtenUnit _ unit) kept⟩
    rintro sign digits whole rfl
    exact integral ⟨sign, digits, unit, whole, unital, rfl⟩
  · refine ⟨_, read_other oneLine ?_, iff_of_true (List.append_nil text) kept⟩
    intro number unit isNumeral unital spelled
    exact numeral ⟨number, unit, isNumeral, unital, spelled⟩

/-- A text of ASCII characters on one line, with no more digits than an integer may have, is split
by its form (`Splits`).  Written back it is the same text, unless it is an integer with leading
zeros or minus zero (`Respelled`). -/
theorem read_splits (text : Text) (ascii : ∀ c ∈ text, c.toNat < 128) (oneLine : '\n' ∉ text)
    (short : text.countP isDecimalDigit ≤ Numeral.digitLimit) :
    ∃ slot, read text = .ok slot ∧ Splits text slot ∧
      (slot.render none = text ↔ ¬Respelled text) := by
  obtain ⟨slot, taken, rendered⟩ := exists_read ascii oneLine short
  exact ⟨slot, taken, splits_of_read ascii oneLine short taken, rendered⟩

/-- The zeros before the seven are lost, the sign and the unit are not. -/
theorem read_splits_padded :
    let text : Text := "-007%"
    (∀ c ∈ text, c.toNat < 128) ∧ '\n' ∉ text ∧
      text.countP isDecimalDigit ≤ Numeral.digitLimit ∧ Respelled text ∧
      ∃ slot, read text = .ok slot ∧ Splits text slot ∧
        slot = ⟨.integer (-7), some "%".toList⟩ ∧ slot.render none ≠ text := by
  intro text
  have ascii : ∀ c ∈ text, c.toNat < 128 := by
    have all : text.all (fun c => c.toNat < 128) = true := by decide
    simpa using List.all_eq_true.1 all
  have oneLine : '\n' ∉ text := by decide
  have short : text.countP isDecimalDigit ≤ Numeral.digitLimit := by decide
  have whole : IsWhole ['-'] ['0', '0', '7'] := by
    refine ⟨.inr rfl, List.cons_ne_nil _ _, ?_⟩
    exact List.all_eq_true.1 (by decide : ['0', '0', '7'].all isDecimalDigit = true)
  have unital : IsUnit ['%'] := List.forall_mem_singleton.2 (by decide)
  have respelled : Respelled text :=
    ⟨['-'], ['0', '0', '7'], ['%'], whole, unital, rfl, .inl ⟨by decide, rfl⟩⟩
  obtain ⟨slot, taken, splits, rendered⟩ := read_splits text ascii oneLine short
  refine ⟨ascii, oneLine, short, respelled, slot, taken, splits, ?_, ?_⟩
  · exact splits.integer _ _ _ whole unital rfl
  · exact fun same => rendered.1 same respelled

end UtilityCss.Slot
