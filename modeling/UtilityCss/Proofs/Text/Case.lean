import UtilityCss.Proofs.Text.Numeral
import UtilityCss.Text.Blank
import UtilityCss.Text.Case
import UtilityCss.Text.Caseless

/-!
# Characters without case

Digits and blanks have no other case.  A text that spells a word without regard to case has a digit
only where the word has it (`letter_of_isFormOf`), and writing a text in small letters keeps its
digits and its blanks (`mem_lower_of_isDecimalDigit`, `mem_lower_of_isBlank`).
-/

namespace UtilityCss

variable {text word : Text} {c letter : Char}

/-! ## Comparison without regard to case -/

lemma toLower_of_isDecimalDigit (digit : isDecimalDigit c = true) : c.toLower = c := by
  have noCapital : ¬(65 ≤ c.toNat ∧ c.toNat ≤ 90) := fun ⟨low, high⟩ => by
    have known := isDigit_of_isDecimalDigit (by omega) digit
    have range : 48 ≤ c.toNat ∧ c.toNat ≤ 57 := Char.isDigit_iff_toNat.1 known
    omega
  exact dif_neg noCapital

/-- Beyond ASCII `isFormOf` knows a few forms by name, and none of them is a digit; within it a
character is compared by `Char.toLower`, which leaves digits and points alone. -/
theorem letter_of_isFormOf (plain : isDecimalDigit c = true ∨ c = '.')
    (form : isFormOf letter c = true) : letter = c := by
  have lower : c.toLower = c := by
    rcases plain with digit | rfl
    · exact toLower_of_isDecimalDigit digit
    · rfl
  have other {d : Char} (noDigit : isDecimalDigit d = false) (noPoint : d ≠ '.') : c ≠ d := by
    rintro rfl
    exact plain.elim (fun digit => Bool.false_ne_true (noDigit.symm.trans digit)) noPoint
  -- The characters beyond ASCII that count as forms of a letter are no digits.
  have dotted : c ≠ 'İ' := other (by decide) (by decide)
  have dotless : c ≠ 'ı' := other (by decide) (by decide)
  have long : c ≠ 'ſ' := other (by decide) (by decide)
  have kelvin : c.toNat ≠ 0x212A := fun code => by
    have := other (d := Char.ofNat 0x212A) (by decide) (by decide)
    exact this (by rw [← code, Char.ofNat_toNat])
  unfold isFormOf at form
  rw [lower] at form
  rcases Bool.or_eq_true_iff.1 form with same | special
  · exact (of_decide_eq_true same).symm
  · split at special <;> simp_all

lemma Text.exists_letter_of_caseless (same : Text.caseless word text = true) (mem : c ∈ text) :
    ∃ letter ∈ word, isFormOf letter c = true := by
  fun_induction Text.caseless word text with
  | case1 => simp at mem
  | case2 letter word d text ih =>
    rw [Bool.and_eq_true] at same
    rcases List.mem_cons.1 mem with rfl | mem
    · exact ⟨letter, List.mem_cons_self, same.1⟩
    · obtain ⟨other, listed, form⟩ := ih same.2 mem
      exact ⟨other, List.mem_cons_of_mem letter listed, form⟩
  | case3 => simp at same

/-! ## Small letters -/

/-- Does the range hold no character with another small form? -/
def CodeRange.isCaseless (range : CodeRange) : Bool :=
  (range.last < 0x41 || 0x5A < range.first) && (range.last < 0x130 || 0x130 < range.first) &&
    lowerRuns.all fun run => run.last < range.first || range.last < run.first

lemma CodeRange.lowerCharacter_of_isCaseless {range : CodeRange}
    (caseless : range.isCaseless = true) (inside : range.covers c = true) :
    lowerCharacter c = [c] := by
  simp only [isCaseless, Bool.and_eq_true, Bool.or_eq_true, decide_eq_true_eq,
    List.all_eq_true] at caseless
  simp only [covers, Bool.and_eq_true, decide_eq_true_eq] at inside
  obtain ⟨⟨noCapital, noDotted⟩, apart⟩ := caseless
  have still : CaseRun.move lowerRuns c.toNat = c.toNat := by
    have missed : lowerRuns.find? (·.covers c.toNat) = none := by
      refine List.find?_eq_none.2 fun run mem covered => ?_
      simp only [CaseRun.covers, Bool.and_eq_true, decide_eq_true_eq] at covered
      have := apart run mem
      omega
    rw [CaseRun.move, missed]
  unfold lowerCharacter
  split
  · have small : ¬(65 ≤ c.toNat ∧ c.toNat ≤ 90) := by omega
    exact congrArg (· :: []) (dif_neg small)
  · rw [if_neg (by omega), still, Char.ofNat_toNat]

/-- `lowerAfter` treats the capital sigma apart, since its small form depends on what surrounds it;
a caseless range cannot hold it. -/
lemma CodeRange.ne_sigma_of_isCaseless {range : CodeRange} (caseless : range.isCaseless = true)
    (inside : range.covers c = true) : c ≠ 'Σ' := by
  rintro rfl
  have same := lowerCharacter_of_isCaseless caseless inside
  revert same
  decide

/-- By ranges, so that a whole table of characters is settled by one test of its ranges
(`mem_lower_of_isBlank`, `mem_lower_of_isDecimalDigit`). -/
lemma Text.mem_lower {range : CodeRange} (caseless : range.isCaseless = true)
    (inside : range.covers c = true) (mem : c ∈ text) : c ∈ Text.lower text := by
  suffices kept : ∀ before, c ∈ lowerAfter before text from kept []
  induction text with
  | nil => simp at mem
  | cons d text ih =>
    intro before
    rw [lowerAfter, List.mem_append]
    rcases List.mem_cons.1 mem with rfl | mem
    · rw [if_neg (CodeRange.ne_sigma_of_isCaseless caseless inside),
        CodeRange.lowerCharacter_of_isCaseless caseless inside]
      exact .inl List.mem_cons_self
    · exact .inr (ih mem _)

theorem mem_lower_of_isBlank (blank : isBlank c = true) (mem : c ∈ text) : c ∈ Text.lower text := by
  have table : blankRanges.all CodeRange.isCaseless = true := by decide +kernel
  obtain ⟨range, listed, inside⟩ := List.any_eq_true.1 blank
  exact Text.mem_lower (List.all_eq_true.1 table range listed) inside mem

theorem mem_lower_of_isDecimalDigit (digit : isDecimalDigit c = true) (mem : c ∈ text) :
    c ∈ Text.lower text := by
  have table : decimalZeros.all (fun first => CodeRange.isCaseless ⟨first, first + 9⟩) = true := by
    decide +kernel
  obtain ⟨first, listed, range⟩ := exists_block_of_isDecimalDigit digit
  have inside : CodeRange.covers ⟨first, first + 9⟩ c = true := by
    simpa only [CodeRange.covers, Bool.and_eq_true, decide_eq_true_eq] using range
  exact Text.mem_lower (List.all_eq_true.1 table first listed) inside mem

/-! ## Digits and blanks -/

lemma not_isBlank_of_isDecimalDigit (digit : isDecimalDigit c = true) : isBlank c = false := by
  have apart : decimalZeros.all (fun first => blankRanges.all fun range =>
      first + 9 < range.first || range.last < first) = true := by decide
  obtain ⟨first, here, block⟩ := exists_block_of_isDecimalDigit digit
  by_contra blank
  rw [Bool.not_eq_false] at blank
  obtain ⟨range, listed, inside⟩ := List.any_eq_true.1 blank
  have beside := List.all_eq_true.1 (List.all_eq_true.1 apart first here) range listed
  simp only [CodeRange.covers, Bool.and_eq_true, Bool.or_eq_true, decide_eq_true_eq]
    at inside beside
  omega

end UtilityCss
