import UtilityCss.Proofs.Sheet.Lengths

/-!
# Validation writes values in a normal form

A value is either taken as it stands, without the blanks around it (`Value.Taken`), or it is a bare
number where a length is needed and gets a unit.  The two exclude each other, so this says all about
what is accepted (`Value.validate_eq_ok_iff`).  A number with its unit is recognised whatever its
sign, its point and the script of its digits, so a value that was written is taken as it stands when
it is read again (`Value.validate_normalizes`).
-/

namespace UtilityCss.Value

open Vocabulary Numeral

variable {property value text written number : Text}

/-- The text is a value of the property as it stands. -/
def Taken (property text : Text) : Prop :=
  property ∈ compoundProperties ∨ isRecognized text = true ∨ isIntrinsic text = true ∨
    property ∉ lengthProperties ∧ isTermList text = true

/-- The two ways of being accepted exclude each other: a bare number is neither recognised nor
intrinsic, and properties that need a length are not compound. -/
lemma Taken.not_decimal (taken : Taken property text) (length : property ∈ lengthProperties) :
    ¬Decimal text := by
  intro decimal
  rcases taken with compound | recognized | intrinsic | ⟨other, -⟩
  · exact not_mem_compoundProperties length compound
  · exact not_isRecognized_of_decimal decimal recognized
  · exact Sized.not_decimal (.intrinsic (of_decide_eq_true intrinsic)) decimal
  · exact other length

lemma validate_of_taken (given : Text.trim value ≠ [])
    (taken : Taken property (Text.trim value)) :
    validate property value = .ok (Text.trim value) := by
  unfold validate
  dsimp only
  rw [if_neg given]
  by_cases compound : property ∈ compoundProperties
  · rw [if_pos compound]
  rw [if_neg compound]
  by_cases recognized : isRecognized (Text.trim value) = true
  · rw [if_pos recognized]
  rw [if_neg recognized]
  by_cases length : property ∈ lengthProperties
  · have noNumber : ¬isDecimal (Text.trim value) = true := fun number =>
      taken.not_decimal length (isDecimal_iff.1 number)
    have intrinsic : isIntrinsic (Text.trim value) = true := by
      simpa [Taken, compound, recognized, length] using taken
    rw [if_pos length, if_neg noNumber, if_pos intrinsic]
  · have listed : (isIntrinsic (Text.trim value) || isTermList (Text.trim value)) = true := by
      simpa [Taken, compound, recognized, length] using taken
    rw [if_neg length, if_pos listed]

/-- The checks of `validate` without their order: a value is accepted if it is not blank and is
either `Taken` as it stands or a number that needs a unit. -/
theorem validate_eq_ok_iff :
    validate property value = .ok written ↔
      Text.trim value ≠ [] ∧
        (Taken property (Text.trim value) ∧ written = Text.trim value ∨
          (property ∈ lengthProperties ∧ Decimal (Text.trim value)) ∧
            written = Text.trim value ++ "px") := by
  constructor
  · intro valid
    unfold validate at valid
    dsimp only at valid
    split at valid
    · simp at valid
    rename_i given
    refine ⟨given, ?_⟩
    split at valid
    · rename_i compound
      exact .inl ⟨.inl compound, (Except.ok.inj valid).symm⟩
    split at valid
    · rename_i recognized
      exact .inl ⟨.inr (.inl recognized), (Except.ok.inj valid).symm⟩
    split at valid
    · rename_i length
      split at valid
      · rename_i decimal
        exact .inr ⟨⟨length, isDecimal_iff.1 decimal⟩, (Except.ok.inj valid).symm⟩
      split at valid
      · rename_i intrinsic
        exact .inl ⟨.inr (.inr (.inl intrinsic)), (Except.ok.inj valid).symm⟩
      · simp at valid
    · rename_i other
      split at valid
      · rename_i listed
        refine .inl ⟨.inr (.inr ?_), (Except.ok.inj valid).symm⟩
        exact (Bool.or_eq_true_iff.1 listed).imp_right fun terms => ⟨other, terms⟩
      · simp at valid
  · rintro ⟨given, ⟨taken, rfl⟩ | ⟨⟨length, decimal⟩, rfl⟩⟩
    · exact validate_of_taken given taken
    · rw [validate_length length given, if_neg (not_isRecognized_of_decimal decimal),
        if_pos (isDecimal_iff.2 decimal)]

lemma eq_of_validate (valid : validate property value = .ok written) :
    written = Text.trim value ∨ written = Text.trim value ++ "px" :=
  (validate_eq_ok_iff.1 valid).2.imp And.right And.right

/-- A number with its unit is recognised, whatever the property, so that `validate` leaves it alone
when it is read again. -/
lemma taken_px (decimal : Decimal number) (property : Text) :
    Taken property (number ++ "px") := by
  refine .inr (.inl ?_)
  simp only [isRecognized, words_px decimal, List.any_cons, anchor_iff.1 (anchor_px decimal),
    Bool.true_or]

lemma trim_px (decimal : Decimal number) : Text.trim (number ++ "px") = number ++ "px" :=
  Text.trim_of_words (words_px decimal)

/-- A value is written without the blanks around it, and with a unit exactly where it is a `Decimal`
and a length is needed.  A value that was written is a value again, and is written as it is
(`taken_px`). -/
theorem validate_normalizes (property value : Text) :
    (property ∈ lengthProperties ∧ property ∉ compoundProperties ∧ Decimal (Text.trim value) →
      validate property value = .ok (Text.trim value ++ "px")) ∧
    ∀ written, validate property value = .ok written →
      (written = Text.trim value ∨
        written = Text.trim value ++ "px" ∧ property ∈ lengthProperties ∧
          property ∉ compoundProperties ∧ Decimal (Text.trim value)) ∧
      validate property written = .ok written := by
  constructor
  · rintro ⟨length, -, decimal⟩
    exact validate_eq_ok_iff.2 ⟨ne_nil_of_decimal decimal, .inr ⟨⟨length, decimal⟩, rfl⟩⟩
  · intro written valid
    obtain ⟨given, ⟨taken, rfl⟩ | ⟨⟨length, decimal⟩, rfl⟩⟩ := validate_eq_ok_iff.1 valid
    · refine ⟨.inl rfl, validate_eq_ok_iff.2 ?_⟩
      rw [Text.trim_trim]
      exact ⟨given, .inl ⟨taken, rfl⟩⟩
    · refine ⟨.inr ⟨rfl, length, not_mem_compoundProperties length, decimal⟩,
        validate_eq_ok_iff.2 ?_⟩
      rw [trim_px decimal]
      exact ⟨by simp, .inl ⟨taken_px decimal property, rfl⟩⟩

theorem validate_normalizes_signed :
    Decimal (Text.trim " -.٥ ") ∧ validate "width" " -.٥ " = .ok "-.٥px".toList ∧
      validate "width" "-.٥px" = .ok "-.٥px".toList := by
  have decimal : Decimal (Text.trim " -.٥ ") := isDecimal_iff.1 (by decide)
  obtain ⟨number, again⟩ := validate_normalizes "width" " -.٥ "
  have written := number ⟨by decide, by decide, decimal⟩
  exact ⟨decimal, written, (again _ written).2⟩

end UtilityCss.Value
