import Mathlib.Data.List.Induction
import Mathlib.Data.Nat.Digits.Defs
import UtilityCss.Proofs.Outcome
import UtilityCss.Numeral

/-!
# Numerals of integers

The numeral that an integer is written as is read back as that integer (`Numeral.integer_ofInt`).
It is not too long for that if the integer was read from some numeral
(`Numeral.length_ofNat_le_of_integer`), because it has no leading zeros; digits are the numeral of
their number exactly when they have none either (`Numeral.ofNat_magnitude_eq_iff`).

Numerals are written with ASCII digits but read with those of any script, which come in blocks of
ten (`exists_block_of_isDecimalDigit`).
-/

namespace UtilityCss.Numeral

variable {digits whole : Text} {value : Int}

/-! ## Digits -/

lemma digitValue?_of_isDigit {c : Char} (digit : c.isDigit = true) :
    digitValue? c = some (c.toNat - '0'.toNat) := by
  have range : 48 ≤ c.toNat ∧ c.toNat < 48 + 10 := by
    obtain ⟨least, greatest⟩ := Char.isDigit_iff_toNat.1 digit
    exact ⟨least, Nat.lt_succ_of_le greatest⟩
  have block : decimalZeros.find? (fun z => z ≤ c.toNat && c.toNat < z + 10) = some 48 := by
    rw [decimalZeros, List.find?_cons_of_pos (by simpa using range)]
  rw [digitValue?, block]
  rfl

lemma digitValue?_le (c : Char) : (digitValue? c).getD 0 ≤ 9 := by
  cases found : decimalZeros.find? fun z => z ≤ c.toNat && c.toNat < z + 10 with
  | none => simp [digitValue?, found]
  | some first =>
    have range := List.find?_some found
    simp only [Bool.and_eq_true, decide_eq_true_eq] at range
    simp only [digitValue?, found, Option.map_some, Option.getD_some]
    omega

/-! ## Rows of digits -/

lemma magnitude_eq_ofDigitChars (ascii : ∀ c ∈ digits, c.isDigit = true) :
    magnitude digits = Nat.ofDigitChars 10 digits 0 := by
  have row (start : Nat) :
      digits.foldl (fun n digit => 10 * n + (digitValue? digit).getD 0) start =
        Nat.ofDigitChars 10 digits start := by
    induction digits generalizing start with
    | nil => rfl
    | cons c digits ih =>
      have value : (digitValue? c).getD 0 = c.toNat - '0'.toNat := by
        rw [digitValue?_of_isDigit (ascii c List.mem_cons_self), Option.getD_some]
      rw [List.foldl_cons, value, Nat.ofDigitChars_cons,
        ih fun d mem => ascii d (List.mem_cons_of_mem c mem)]
  exact row 0

lemma isDigit_of_mem_ofNat {n : Nat} {c : Char} (mem : c ∈ Text.ofNat n) : c.isDigit = true :=
  Nat.isDigit_of_mem_toDigits (by decide) (by decide) mem

lemma magnitude_ofNat (n : Nat) : magnitude (Text.ofNat n) = n := by
  rw [magnitude_eq_ofDigitChars fun c => isDigit_of_mem_ofNat]
  exact Nat.ofDigitChars_ten_toDigits

lemma magnitude_lt (digits : Text) : magnitude digits < 10 ^ digits.length := by
  have row (start : Nat) : digits.foldl (fun n digit => 10 * n + (digitValue? digit).getD 0) start <
      (start + 1) * 10 ^ digits.length := by
    induction digits generalizing start with
    | nil => simp
    | cons c digits ih =>
      have digit := digitValue?_le c
      -- The bound for the rest of the row, at the value that its first digit leads to.
      calc
        _ < (10 * start + (digitValue? c).getD 0 + 1) * 10 ^ digits.length := ih _
        _ ≤ (10 * (start + 1)) * 10 ^ digits.length := Nat.mul_le_mul_right _ (by omega)
        _ = (start + 1) * 10 ^ (c :: digits).length := by
          rw [List.length_cons, Nat.pow_succ]
          ring
  have whole := row 0
  rw [Nat.zero_add, Nat.one_mul] at whole
  exact whole

lemma length_ofNat_magnitude (short : digits.length ≤ digitLimit) :
    (Text.ofNat (magnitude digits)).length ≤ digitLimit := by
  have bound : magnitude digits < 10 ^ digitLimit :=
    Nat.lt_of_lt_of_le (magnitude_lt digits) (Nat.pow_le_pow_right (by decide) short)
  exact Nat.toDigits_length 10 _ digitLimit (by decide) bound

/-! ## Leading zeros -/

lemma magnitude_concat (digits : Text) (c : Char) :
    magnitude (digits ++ [c]) = 10 * magnitude digits + (digitValue? c).getD 0 := by
  simp [magnitude]

lemma ofNat_digit {c : Char} (digit : c.isDigit = true) :
    Text.ofNat ((digitValue? c).getD 0) = [c] := by
  have range : 48 ≤ c.toNat ∧ c.toNat ≤ 57 := Char.isDigit_iff_toNat.1 digit
  have small : c.toNat - 48 < 10 := by omega
  have same : Nat.digitChar (c.toNat - 48) = c := by
    apply Char.toNat_inj.1
    rw [Nat.toNat_digitChar_of_lt_ten small]
    omega
  rw [digitValue?_of_isDigit digit, Option.getD_some]
  exact (Nat.toDigits_of_lt_base small).trans (congrArg (fun d => [d]) same)

/-- Induction from the last digit, as `Nat.toDigits` makes them; it needs a positive number before
that digit, and this is where a leading zero would hurt. -/
lemma ofNat_magnitude (ascii : ∀ c ∈ digits, c.isDigit = true) (given : digits ≠ [])
    (noZeros : 1 < digits.length → digits.head? ≠ some '0') :
    Text.ofNat (magnitude digits) = digits := by
  induction digits using List.reverseRecOn with
  | nil => exact absurd rfl given
  | append_singleton front c ih =>
    obtain ⟨ascii, last⟩ := List.forall_mem_append.1 ascii
    have digit := last c List.mem_cons_self
    rw [magnitude_concat]
    cases front with
    | nil =>
      rw [magnitude, List.foldl_nil, Nat.mul_zero, Nat.zero_add, ofNat_digit digit, List.nil_append]
    | cons first front =>
      have noZero : first ≠ '0' := by simpa using noZeros (by simp)
      have same := ih ascii (List.cons_ne_nil first front) fun _ => by simpa using noZero
      have positive : 0 < magnitude (first :: front) := by
        refine Nat.pos_of_ne_zero fun zero => noZero ?_
        rw [zero] at same
        exact (List.cons.inj same).1.symm
      have small : (digitValue? c).getD 0 < 10 := Nat.lt_succ_of_le (digitValue?_le c)
      calc
        Text.ofNat (10 * magnitude (first :: front) + (digitValue? c).getD 0)
        _ = Text.ofNat (magnitude (first :: front)) ++ Text.ofNat ((digitValue? c).getD 0) :=
          (Nat.toDigits_append_toDigits (by decide) positive small).symm
        _ = first :: front ++ [c] := by rw [same, ofNat_digit digit]

/-- Behind a leading zero the magnitude is below the power of ten for the other digits
(`magnitude_lt`), so that its numeral is shorter than the digits were. -/
theorem ofNat_magnitude_eq_iff (ascii : ∀ c ∈ digits, c.isDigit = true) (given : digits ≠ []) :
    Text.ofNat (magnitude digits) = digits ↔ (1 < digits.length → digits.head? ≠ some '0') := by
  refine ⟨fun same long zero => ?_, ofNat_magnitude ascii given⟩
  obtain ⟨rest, rfl⟩ := List.head?_eq_some_iff.1 zero
  have positive : 0 < rest.length := by simpa using long
  have bound : magnitude ('0' :: rest) < 10 ^ rest.length := magnitude_lt rest
  have shorter : (Text.ofNat (magnitude ('0' :: rest))).length ≤ rest.length :=
    Nat.toDigits_length 10 _ _ positive bound
  rw [same, List.length_cons] at shorter
  omega

/-! ## Integers -/

lemma natural_eq_ok {n : Nat} (h : natural digits = .ok n) :
    digits.length ≤ digitLimit ∧ n = magnitude digits := by
  unfold natural at h
  split at h
  · rename_i short
    exact ⟨short, (Except.ok.inj h).symm⟩
  · simp at h

/-- `digitLimit` bounds what is read, leading zeros included, and the numeral of the magnitude has
none (`length_ofNat_magnitude`); so what was read can be written and read again. -/
theorem length_ofNat_le_of_integer (h : integer whole = .ok value) :
    (Text.ofNat value.natAbs).length ≤ digitLimit := by
  unfold integer at h
  split at h <;>
  · obtain ⟨_, lifted, rfl⟩ := map_eq_ok_iff.1 h
    obtain ⟨n, read, same⟩ := bind_eq_ok_iff.1 lifted
    obtain rfl := Except.ok.inj same
    obtain ⟨short, rfl⟩ := natural_eq_ok read
    simpa using length_ofNat_magnitude short

lemma natural_ofNat {n : Nat} (short : (Text.ofNat n).length ≤ digitLimit) :
    natural (Text.ofNat n) = .ok n := by
  rw [natural, if_pos short, magnitude_ofNat]

/-- `integer` takes a minus sign for the sign of the number, and a numeral of digits does not begin
with one. -/
theorem integer_ofInt (short : (Text.ofNat value.natAbs).length ≤ digitLimit) :
    integer (Text.ofInt value) = .ok value := by
  cases value with
  | ofNat n =>
    have read : natural (Text.ofNat n) = .ok n := natural_ofNat short
    unfold integer
    split
    · rename_i digits shape
      have minus : '-' ∈ Text.ofNat n := by
        rw [show Text.ofNat n = '-' :: digits from shape]
        exact List.mem_cons_self
      exact absurd (isDigit_of_mem_ofNat minus) (by decide)
    · rw [Text.ofInt, read]
      rfl
  | negSucc n =>
    have read : natural (Text.ofNat (n + 1)) = .ok (n + 1) := natural_ofNat short
    rw [Text.ofInt, integer, read]
    rfl

end UtilityCss.Numeral

/-! ## Digits of all scripts -/

namespace UtilityCss

variable {c : Char}

lemma isDecimalDigit_of_isDigit (digit : c.isDigit = true) : isDecimalDigit c = true := by
  rw [isDecimalDigit, Numeral.digitValue?_of_isDigit digit, Option.isSome_some]

/-- `digitValue?` looks for the block and subtracts its first code; the other facts about digits of
all scripts are checked on the table of blocks. -/
theorem exists_block_of_isDecimalDigit (digit : isDecimalDigit c = true) :
    ∃ first ∈ decimalZeros, first ≤ c.toNat ∧ c.toNat ≤ first + 9 := by
  obtain ⟨value, found⟩ := Option.isSome_iff_exists.1 digit
  obtain ⟨first, here, -⟩ := Option.map_eq_some_iff.1 found
  have range := List.find?_some here
  simp only [Bool.and_eq_true, decide_eq_true_eq] at range
  exact ⟨first, List.mem_of_find?_eq_some here, range.1, Nat.le_of_lt_succ range.2⟩

/-- Of the blocks in `decimalZeros` only one begins below 128, which is decided on the table. -/
lemma isDigit_of_isDecimalDigit (ascii : c.toNat < 128) (digit : isDecimalDigit c = true) :
    c.isDigit = true := by
  have blocks : decimalZeros.all (fun first => first == 48 || 128 ≤ first) = true := by decide
  obtain ⟨first, listed, range⟩ := exists_block_of_isDecimalDigit digit
  have block := List.all_eq_true.1 blocks first listed
  simp only [Bool.or_eq_true, beq_iff_eq, decide_eq_true_eq] at block
  have code : 48 ≤ c.toNat ∧ c.toNat ≤ 57 := by omega
  exact Char.isDigit_iff_toNat.2 code

end UtilityCss
