import UtilityCss.Proofs.Statement.Alphabet
import UtilityCss.Proofs.Store.Literal
import UtilityCss.Proofs.Text.Case
import UtilityCss.Proofs.Text.Words
import UtilityCss.Sheet.Value

/-!
# The values of lengths

A part of a length is sized if it says by itself how long something is: a number with a unit, a
keyword, an intrinsic size; a colour counts as well (`Value.Sized`).  A number alone is not sized
(`Value.Sized.not_decimal`): it is accepted as the whole value, and gets its unit then.

What a property that needs a length accepts is said in terms of the parts of its value
(`Value.Accepted`).  A measure or a CSS-wide keyword vouches for all the parts beside it
(`Value.Anchor`), so these need not be sized; without one, all the parts are
(`Value.validate_length_iff`).
-/

namespace UtilityCss

variable {text number rest word part value property : Text} {c : Char}

/-! ## Sized parts -/

namespace Value

open Vocabulary Numeral

/-- A part that makes the whole value recognised: a number with a unit or a CSS-wide keyword, both
in any case. -/
inductive Anchor : Text → Prop
  | measure {number unit known : Text} : Decimal number → known ∈ units →
      Text.caseless known unit = true → Anchor (number ++ unit)
  | wide {part known : Text} : known ∈ wideKeywords → Text.caseless known part = true → Anchor part

/-- A part that says how long something is, or a colour. -/
inductive Sized : Text → Prop
  | anchor {part : Text} : Anchor part → Sized part
  | keyword {part : Text} : part ∈ valueKeywords → Sized part
  | intrinsic {part : Text} : Text.lower part ∈ intrinsicSizes → Sized part
  | color {digits : Text} : (∀ c ∈ digits, isHexDigit c = true) → digits.length ∈ [3, 4, 6, 8] →
      Sized ('#' :: digits)

/-- Is no word of the list empty, and has none a blank, a digit or a point in it? -/
def isPlain (known : List Text) : Bool :=
  known.all fun word => word ≠ [] && word.all fun c => !isBlank c && !isDecimalDigit c && c != '.'

section Plain

variable {known : List Text} (plain : isPlain known = true) (listed : word ∈ known)
include plain listed

lemma ne_nil_of_isPlain : word ≠ [] := by
  have here := List.all_eq_true.1 plain word listed
  simp only [Bool.and_eq_true, decide_eq_true_eq] at here
  exact here.1

lemma not_isBlank_of_isPlain (mem : c ∈ word) : isBlank c = false := by
  have here := List.all_eq_true.1 plain word listed
  simp only [Bool.and_eq_true, List.all_eq_true, Bool.not_eq_true'] at here
  exact (here.2 c mem).1.1

lemma not_mem_of_isPlain (mem : c ∈ word) : isDecimalDigit c = false ∧ c ≠ '.' := by
  have here := List.all_eq_true.1 plain word listed
  simp only [Bool.and_eq_true, List.all_eq_true, Bool.not_eq_true', bne_iff_ne] at here
  exact ⟨(here.2 c mem).1.2, (here.2 c mem).2⟩

lemma not_mem_of_caseless (same : Text.caseless word text = true) (mem : c ∈ text) :
    isDecimalDigit c = false ∧ c ≠ '.' := by
  obtain ⟨letter, inside, form⟩ := Text.exists_letter_of_caseless same mem
  have own := not_mem_of_isPlain plain listed inside
  constructor
  · by_contra digit
    rw [Bool.not_eq_false] at digit
    rw [letter_of_isFormOf (.inl digit) form] at own
    exact Bool.false_ne_true (own.1.symm.trans digit)
  · rintro rfl
    exact own.2 (letter_of_isFormOf (.inr rfl) form)

end Plain

lemma isMeasure_iff : isMeasure part = true ↔
    ∃ number unit known, part = number ++ unit ∧ Decimal number ∧ known ∈ units ∧
      Text.caseless known unit = true := by
  constructor
  · intro measure
    obtain ⟨⟨number, unit⟩, found, named⟩ := (Option.any_eq_true _ _).1 measure
    obtain ⟨known, listed, same⟩ := List.any_eq_true.1 named
    exact ⟨number, unit, known, (append_of_decimal? found).symm, decimal_of_decimal? found, listed,
      same⟩
  · rintro ⟨number, unit, known, rfl, decimal, listed, same⟩
    have plain : isPlain units = true := by decide
    have apart {c : Char} (mem : c ∈ unit) := not_mem_of_caseless plain listed same mem
    have found : decimal? (number ++ unit) = some (number, unit) := decimal.decimal?_append
      (fun c first => (apart (List.mem_of_mem_head? first)).1)
      (fun first => (apart (List.mem_of_mem_head? first)).2 rfl)
    rw [isMeasure, found]
    exact List.any_eq_true.2 ⟨known, listed, same⟩

lemma anchor_iff : Anchor part ↔ (isWideKeyword part || isMeasure part) = true := by
  rw [Bool.or_eq_true, isMeasure_iff, isWideKeyword, List.any_eq_true]
  constructor
  · rintro (⟨decimal, listed, same⟩ | ⟨listed, same⟩)
    · exact .inr ⟨_, _, _, rfl, decimal, listed, same⟩
    · exact .inl ⟨_, listed, same⟩
  · rintro (⟨known, listed, same⟩ | ⟨number, unit, known, rfl, decimal, listed, same⟩)
    · exact .wide listed same
    · exact .measure decimal listed same

lemma isHexColor_iff : isHexColor part = true ↔
    ∃ digits, part = '#' :: digits ∧ (∀ c ∈ digits, isHexDigit c = true) ∧
      digits.length ∈ [3, 4, 6, 8] := by
  unfold isHexColor
  split
  · simp
  · rename_i other
    simp only [Bool.false_eq_true, false_iff]
    rintro ⟨digits, rfl, -⟩
    exact other digits rfl

lemma sized_iff : Sized part ↔
    (isWideKeyword part || isMeasure part || decide (part ∈ valueKeywords) || isIntrinsic part ||
      isHexColor part) = true := by
  simp only [Bool.or_eq_true (_ || _), ← anchor_iff, isHexColor_iff, isIntrinsic, decide_eq_true_eq]
  constructor
  · rintro (anchor | keyword | intrinsic | ⟨hex, length⟩)
    · exact .inl (.inl (.inl anchor))
    · exact .inl (.inl (.inr keyword))
    · exact .inl (.inr intrinsic)
    · exact .inr ⟨_, rfl, hex, length⟩
  · rintro (((anchor | keyword) | intrinsic) | ⟨digits, rfl, hex, length⟩)
    · exact .anchor anchor
    · exact .keyword keyword
    · exact .intrinsic intrinsic
    · exact .color hex length

instance (part : Text) : Decidable (Anchor part) := decidable_of_iff _ anchor_iff.symm

instance (part : Text) : Decidable (Sized part) := decidable_of_iff _ sized_iff.symm

instance (text : Text) : Decidable (Decimal text) := decidable_of_iff _ isDecimal_iff

lemma ne_nil_of_caseless (given : word ≠ []) (same : Text.caseless word text = true) :
    text ≠ [] := by
  rintro rfl
  obtain ⟨letter, word, rfl⟩ := List.exists_cons_of_ne_nil given
  simp [Text.caseless] at same

/-- A number without a unit is not `Sized`: keywords, intrinsic sizes and units have neither digits
nor points (`isPlain`), and a colour begins with a number sign. -/
theorem Sized.not_decimal (sized : Sized part) : ¬Decimal part := by
  intro decimal
  -- A decimal ends with a digit, and the words of the vocabulary have none.
  obtain ⟨c, last, digit⟩ := decimal.getLast?
  have mem := List.mem_of_getLast? last
  have clash (noDigit : isDecimalDigit c = false) : False :=
    Bool.false_ne_true (noDigit.symm.trans digit)
  have plainUnits : isPlain units = true := by decide
  have plainWide : isPlain wideKeywords = true := by decide
  have plainKeywords : isPlain valueKeywords = true := by decide
  have plainSizes : isPlain intrinsicSizes = true := by decide
  cases sized with
  | anchor anchor =>
    cases anchor with
    | @measure number unit known _ listed same =>
      have given : unit ≠ [] := ne_nil_of_caseless (ne_nil_of_isPlain plainUnits listed) same
      rw [List.getLast?_append_of_ne_nil _ given] at last
      exact clash (not_mem_of_caseless plainUnits listed same (List.mem_of_getLast? last)).1
    | wide listed same => exact clash (not_mem_of_caseless plainWide listed same mem).1
  | keyword listed => exact clash (not_mem_of_isPlain plainKeywords listed mem).1
  | intrinsic listed =>
    exact clash (not_mem_of_isPlain plainSizes listed (mem_lower_of_isDecimalDigit digit mem)).1
  | @color digits hex _ =>
    rw [← isDecimal_iff, isDecimal, Slot.decimal?_color] at decimal
    simp at decimal

/-! ## Parts without blanks -/

lemma solid_of_decimal (decimal : Decimal part) : ∀ c ∈ part, isBlank c = false :=
  decimal.forall_mem (fun _ => not_isBlank_of_isDecimalDigit) (by decide) (by decide)

lemma solid_of_color {digits : Text} (hex : ∀ c ∈ digits, isHexDigit c = true) :
    ∀ c ∈ '#' :: digits, isBlank c = false := by
  intro c mem
  rcases List.mem_cons.1 mem with rfl | mem
  · decide
  · exact Lexer.not_isBlank_of_isWordPart (Lexer.isWordPart_of_isHexDigit (hex c mem))

lemma solid_of_intrinsic (intrinsic : Text.lower part ∈ intrinsicSizes) :
    ∀ c ∈ part, isBlank c = false := by
  have plain : isPlain intrinsicSizes = true := by decide
  intro c mem
  by_contra blank
  rw [Bool.not_eq_false] at blank
  have solid := not_isBlank_of_isPlain plain intrinsic (mem_lower_of_isBlank blank mem)
  exact Bool.false_ne_true (solid.symm.trans blank)

/-! ## Accepted values -/

/-- What a property that needs a length accepts, and how it is written: a value with an anchor in
it, a row of keywords, one sized part, or one number, which gets a unit. -/
inductive Accepted (value : Text) : Text → Prop
  | anchored {part : Text} : part ∈ Text.words value → Anchor part →
      Accepted value (Text.trim value)
  | keywords : Text.words value ≠ [] → (∀ part ∈ Text.words value, part ∈ valueKeywords) →
      Accepted value (Text.trim value)
  | sized {part : Text} : Text.words value = [part] → Sized part → Accepted value part
  | number {part : Text} : Text.words value = [part] → Decimal part → Accepted value (part ++ "px")

lemma isRecognized_iff (noCall : '(' ∉ text) : isRecognized text = true ↔
    (∃ part ∈ Text.words text, Anchor part) ∨ isHexColor text = true ∨
      ∀ part ∈ Text.words text, part ∈ valueKeywords := by
  have noFunction : isFunctionCall text = false := by simp [isFunctionCall, noCall]
  have noColor : isColorCall text = false := by
    have rest : text.dropWhile (· != '(') = [] :=
      List.dropWhile_eq_nil_iff.2 fun c mem => bne_iff_ne.2 fun same => noCall (same ▸ mem)
    rw [isColorCall, rest, Bool.and_false]
  have anchored : (Text.words text).any (fun word => isWideKeyword word || isMeasure word) = true ↔
      ∃ part ∈ Text.words text, Anchor part := by
    simp only [List.any_eq_true, anchor_iff]
  rw [isRecognized, noFunction, noColor, Bool.or_false, Bool.or_false, Bool.or_eq_true,
    Bool.or_eq_true, anchored, List.all_eq_true]
  simp only [decide_eq_true_eq, or_assoc]

lemma ne_nil_of_decimal (decimal : Decimal text) : text ≠ [] := by
  rintro rfl
  obtain ⟨c, last, -⟩ := decimal.getLast?
  simp at last

/-- `isRecognized` wants a unit behind the number, and a `Decimal` has none; so a bare number goes
on to get its unit. -/
lemma not_isRecognized_of_decimal (decimal : Decimal text) : ¬isRecognized text = true := by
  have noCall : '(' ∉ text := by
    intro mem
    have noDigit : isDecimalDigit '(' = false := by decide
    refine decimal.forall_mem (p := (· ≠ '(')) ?_ (by decide) (by decide) '(' mem rfl
    rintro _ digit rfl
    exact Bool.false_ne_true (noDigit.symm.trans digit)
  have unsized : ¬Sized text := fun sized => sized.not_decimal decimal
  rw [isRecognized_iff noCall, Text.words_of_solid (ne_nil_of_decimal decimal)
    (solid_of_decimal decimal)]
  rintro (⟨other, mem, anchor⟩ | color | keywords)
  · obtain rfl := List.mem_singleton.1 mem
    exact unsized (.anchor anchor)
  · obtain ⟨digits, rfl, hex, size⟩ := isHexColor_iff.1 color
    exact unsized (.color hex size)
  · exact unsized (.keyword (keywords text List.mem_cons_self))

/-- A number with its unit is one part, because a `Decimal` has no blanks, and an `Anchor`. -/
lemma words_px (decimal : Decimal number) :
    Text.words (number ++ "px") = [number ++ "px"] := by
  refine Text.words_of_solid (by simp) (List.forall_mem_append.2 ⟨solid_of_decimal decimal, ?_⟩)
  rintro c (_ | ⟨_, _ | ⟨_, ⟨⟩⟩⟩) <;> decide

lemma anchor_px (decimal : Decimal number) : Anchor (number ++ "px") :=
  have unit : ['p', 'x'] ∈ units := by decide
  .measure decimal unit (by decide)

lemma not_mem_compoundProperties (length : property ∈ lengthProperties) :
    property ∉ compoundProperties := by
  have table :
      lengthProperties.all (fun property => decide (property ∉ compoundProperties)) = true := by
    decide
  exact of_decide_eq_true (List.all_eq_true.1 table property length)

/-- The way of a length through the checks of `validate`, one after the other.  The lists of
properties do not overlap, so that the first check does not apply. -/
lemma validate_length (length : property ∈ lengthProperties) (given : Text.trim value ≠ []) :
    validate property value =
      if isRecognized (Text.trim value) then .ok (Text.trim value)
      else if isDecimal (Text.trim value) then .ok (Text.trim value ++ "px")
      else if isIntrinsic (Text.trim value) then .ok (Text.trim value)
      else .error (.invalidValue property value) := by
  unfold validate
  simp only [if_neg given, if_neg (not_mem_compoundProperties length), if_pos length]

section Accepted

variable (length : property ∈ lengthProperties) (noCall : '(' ∉ value)
include length noCall

lemma accepted_of_validate (valid : validate property value = .ok text) :
    Accepted value text := by
  have noCall' : '(' ∉ Text.trim value := fun mem => noCall (Text.mem_of_mem_trim mem)
  have given : Text.trim value ≠ [] := by
    intro none
    unfold validate at valid
    simp [none] at valid
  have one (solid : ∀ c ∈ Text.trim value, isBlank c = false) :
      Text.words value = [Text.trim value] := by
    rw [← Text.words_trim, Text.words_of_solid given solid]
  rw [validate_length length given] at valid
  split at valid
  · rename_i recognized
    obtain rfl := Except.ok.inj valid
    rw [isRecognized_iff noCall', Text.words_trim] at recognized
    rcases recognized with ⟨part, mem, anchor⟩ | color | keywords
    · exact .anchored mem anchor
    · obtain ⟨digits, shape, hex, size⟩ := isHexColor_iff.1 color
      rw [shape] at one ⊢
      exact .sized (one (solid_of_color hex)) (.color hex size)
    · exact .keywords (fun none => given (Text.words_eq_nil_iff_trim.1 none)) keywords
  split at valid
  · rename_i number
    obtain rfl := Except.ok.inj valid
    have decimal := isDecimal_iff.1 number
    exact .number (one (solid_of_decimal decimal)) decimal
  split at valid
  · rename_i size
    obtain rfl := Except.ok.inj valid
    have intrinsic := of_decide_eq_true size
    exact .sized (one (solid_of_intrinsic intrinsic)) (.intrinsic intrinsic)
  · simp at valid

lemma validate_of_accepted (accepted : Accepted value text) :
    validate property value = .ok text := by
  have noCall' : '(' ∉ Text.trim value := fun mem => noCall (Text.mem_of_mem_trim mem)
  have recognized := isRecognized_iff noCall'
  rw [Text.words_trim] at recognized
  have given (some : Text.words value ≠ []) : Text.trim value ≠ [] := fun none =>
    some (Text.words_eq_nil_iff_trim.2 none)
  cases accepted with
  | anchored mem anchor =>
    rw [validate_length length (given (List.ne_nil_of_mem mem)),
      if_pos (recognized.2 (.inl ⟨_, mem, anchor⟩))]
  | keywords some keywords =>
    rw [validate_length length (given some), if_pos (recognized.2 (.inr (.inr keywords)))]
  | sized single sized =>
    have whole := Text.trim_of_words single
    rw [validate_length length (given (by simp [single])), whole]
    rw [whole, single] at recognized
    cases sized with
    | anchor anchor => rw [if_pos (recognized.2 (.inl ⟨_, List.mem_cons_self, anchor⟩))]
    | keyword listed =>
      rw [if_pos (recognized.2 (.inr (.inr (List.forall_mem_singleton.2 listed))))]
    | color hex size =>
      rw [if_pos (recognized.2 (.inr (.inl (isHexColor_iff.2 ⟨_, rfl, hex, size⟩))))]
    | intrinsic listed =>
      -- Whether it is recognised or not, the size is written as it is.
      have noNumber : ¬isDecimal text = true := fun number =>
        Sized.not_decimal (.intrinsic listed) (isDecimal_iff.1 number)
      have size : isIntrinsic text = true := decide_eq_true listed
      rw [if_neg noNumber, if_pos size, ite_self]
  | number single decimal =>
    rw [validate_length length (given (by simp [single])), Text.trim_of_words single,
      if_neg (not_isRecognized_of_decimal decimal), if_pos (isDecimal_iff.2 decimal)]

end Accepted

lemma Accepted.sized_of_mem (accepted : Accepted value text)
    (vouched : (∃ part ∈ Text.words value, Anchor part) → ∀ part ∈ Text.words value, Sized part)
    (mem : part ∈ Text.words text) : Sized part := by
  cases accepted with
  | anchored listed anchor =>
    rw [Text.words_trim] at mem
    exact vouched ⟨_, listed, anchor⟩ part mem
  | keywords _ keywords =>
    rw [Text.words_trim] at mem
    exact .keyword (keywords part mem)
  | sized single sized =>
    rw [← Text.trim_of_words single, Text.words_trim, single, List.mem_singleton] at mem
    rwa [mem]
  | number single decimal =>
    rw [words_px decimal, List.mem_singleton] at mem
    exact mem ▸ .anchor (anchor_px decimal)

/-- For a property that needs a length and a value without calls.  A value is accepted, and written,
as `Accepted` says; and all the parts that are written are `Sized`, none of them a bare number,
exactly when no part that is not sized stands beside an `Anchor`. -/
theorem validate_length_iff (length : property ∈ lengthProperties) (noCall : '(' ∉ value) :
    (∀ text, validate property value = .ok text ↔ Accepted value text) ∧
    ((∀ text, validate property value = .ok text →
        ∀ part ∈ Text.words text, Sized part ∧ ¬Decimal part) ↔
      ((∃ part ∈ Text.words value, Anchor part) → ∀ part ∈ Text.words value, Sized part)) := by
  have accepted (text : Text) : validate property value = .ok text ↔ Accepted value text :=
    ⟨accepted_of_validate length noCall, validate_of_accepted length noCall⟩
  refine ⟨accepted, ?_, ?_⟩
  · rintro written ⟨anchor, mem, anchored⟩ part listed
    rw [← Text.words_trim] at listed
    exact (written _ ((accepted _).2 (.anchored mem anchored)) part listed).1
  · intro vouched text valid part mem
    have sized := Accepted.sized_of_mem ((accepted text).1 valid) vouched mem
    exact ⟨sized, sized.not_decimal⟩

theorem validate_length_iff_wide :
    (("width" : Text) ∈ lengthProperties ∧ '(' ∉ (" 1.5EM  auto " : Text)) ∧
    validate "width" " 1.5EM  auto " = .ok "1.5EM  auto" ∧
    ∀ text, validate "width" " 1.5EM  auto " = .ok text →
      ∀ part ∈ Text.words text, Sized part ∧ ¬Decimal part := by
  have length : ("width" : Text) ∈ lengthProperties := by decide
  have noCall : '(' ∉ (" 1.5EM  auto " : Text) := by decide
  have parts : Text.words " 1.5EM  auto " = ["1.5EM", "auto"] := by decide
  have anchor : Anchor "1.5EM" := by decide
  obtain ⟨accepted, sized⟩ := validate_length_iff length noCall
  refine ⟨⟨length, noCall⟩, (accepted _).2 ?_, sized.2 fun _ => ?_⟩
  · have whole : Text.trim " 1.5EM  auto " = "1.5EM  auto" := by decide
    exact whole ▸ .anchored (parts ▸ List.mem_cons_self) anchor
  · rw [parts]
    rintro part (_ | ⟨_, _ | ⟨_, ⟨⟩⟩⟩)
    · exact .anchor anchor
    · decide

/-- An `Anchor` lets a stray word and a bare number through. -/
theorem validate_unsized :
    validate "width" "1px banana" = .ok "1px banana" ∧
    Text.words "1px banana" = ["1px", "banana"] ∧ ¬Sized "banana" ∧
    validate "width" "1px 5" = .ok "1px 5" ∧
    Text.words "1px 5" = ["1px", "5"] ∧ Decimal "5" := by
  decide +kernel

end Value

end UtilityCss
