import Mathlib.Data.List.Basic
import UtilityCss.Proofs.Text.Numeral
import UtilityCss.Proofs.Token.LineEnd

/-!
# Decimals

A decimal is read off the front of a text.  What is read and what is left are the text
(`Numeral.append_of_decimal?`), and the part that is read has the form of a decimal
(`Numeral.Decimal`).  Conversely a decimal is read as far as it goes, if the text behind it cannot
go on with it (`Numeral.Decimal.decimal?_append`).
-/

namespace UtilityCss.Numeral

variable {text number rest sign digits : Text}

/-- Digits of any script, of which the last may stand behind a point. -/
def Unsigned (text : Text) : Prop :=
  ∃ whole point decimals : Text, text = whole ++ (point ++ decimals) ∧
    (point = [] ∨ point = ['.']) ∧ decimals ≠ [] ∧
    (∀ c ∈ whole, isDecimalDigit c = true) ∧ ∀ c ∈ decimals, isDecimalDigit c = true

/-- Digits with or without a point, perhaps behind a minus sign. -/
def Decimal (text : Text) : Prop :=
  ∃ sign body : Text, text = sign ++ body ∧ (sign = [] ∨ sign = ['-']) ∧ Unsigned body

/-! ## Reading -/

lemma append_of_unsigned? (found : unsigned? text = some (number, rest)) :
    number ++ rest = text := by
  simp only [unsigned?] at found
  split at found
  · rename_i pointed
    obtain ⟨tail, shape⟩ := List.head?_eq_some_iff.1 pointed.1
    obtain ⟨rfl, rfl⟩ := Prod.mk.inj (Option.some.inj found)
    have skipped : Text.skip '.' (text.dropWhile isDecimalDigit) = tail := by
      rw [shape, Text.skip, if_pos rfl]
    rw [skipped, List.append_assoc, List.cons_append, List.takeWhile_append_dropWhile, ← shape,
      List.takeWhile_append_dropWhile]
  split at found
  · obtain ⟨rfl, rfl⟩ := Prod.mk.inj (Option.some.inj found)
    exact List.takeWhile_append_dropWhile
  · simp at found

theorem append_of_decimal? (found : decimal? text = some (number, rest)) :
    number ++ rest = text := by
  unfold decimal? at found
  split at found
  · obtain ⟨⟨inner, tail⟩, unsigned, same⟩ := Option.map_eq_some_iff.1 found
    obtain ⟨rfl, rfl⟩ := Prod.mk.inj same
    rw [List.cons_append, append_of_unsigned? unsigned]
  · exact append_of_unsigned? found

lemma unsigned?_whole (run : ∀ c ∈ digits, isDecimalDigit c = true) (given : digits ≠ [])
    (stops : ∀ c ∈ rest.head?, isDecimalDigit c = false) (noPoint : rest.head? ≠ some '.') :
    unsigned? (digits ++ rest) = some (digits, rest) := by
  simp only [unsigned?, Text.takeWhile_run run stops, Text.dropWhile_run run stops, noPoint,
    false_and, if_false, if_pos given]

lemma unsigned?_point {decimals : Text} (run : ∀ c ∈ digits, isDecimalDigit c = true)
    (inner : ∀ c ∈ decimals, isDecimalDigit c = true) (given : decimals ≠ [])
    (stops : ∀ c ∈ rest.head?, isDecimalDigit c = false) :
    unsigned? (digits ++ '.' :: (decimals ++ rest)) = some (digits ++ '.' :: decimals, rest) := by
  have point : ∀ c ∈ ('.' :: (decimals ++ rest)).head?, isDecimalDigit c = false := by
    rintro c ⟨⟩
    decide
  have skipped : Text.skip '.' ('.' :: (decimals ++ rest)) = decimals ++ rest := by
    simp [Text.skip]
  simp only [unsigned?, Text.takeWhile_run run point, Text.dropWhile_run run point, skipped,
    Text.takeWhile_run inner stops, Text.dropWhile_run inner stops]
  exact if_pos ⟨rfl, given⟩

/-- `decimal?` looks for a sign first, so that `noSign` is needed where there is none to be put
before the text. -/
lemma decimal?_signed {number : Text} (signed : sign = [] ∨ sign = ['-'])
    (noSign : text.head? ≠ some '-') (found : unsigned? text = some (number, rest)) :
    decimal? (sign ++ text) = some (sign ++ number, rest) := by
  rcases signed with rfl | rfl
  · rw [List.nil_append, List.nil_append]
    unfold decimal?
    split
    · simp at noSign
    · exact found
  · simp [decimal?, found]

/-! ## Forms -/

lemma unsigned_of_unsigned? (found : unsigned? text = some (number, rest)) : Unsigned number := by
  have run (text : Text) : ∀ c ∈ text.takeWhile isDecimalDigit, isDecimalDigit c = true :=
    fun c mem => List.mem_takeWhile_imp mem
  simp only [unsigned?] at found
  split at found
  · rename_i pointed
    obtain ⟨rfl, rfl⟩ := Prod.mk.inj (Option.some.inj found)
    exact ⟨_, ['.'], _, rfl, .inr rfl, pointed.2, run _, run _⟩
  split at found
  · rename_i given
    obtain ⟨rfl, rfl⟩ := Prod.mk.inj (Option.some.inj found)
    exact ⟨[], [], _, rfl, .inl rfl, given, by simp, run _⟩
  · simp at found

lemma decimal_of_decimal? (found : decimal? text = some (number, rest)) : Decimal number := by
  unfold decimal? at found
  split at found
  · obtain ⟨⟨body, rest⟩, unsigned, same⟩ := Option.map_eq_some_iff.1 found
    obtain ⟨rfl, rfl⟩ := Prod.mk.inj same
    exact ⟨['-'], body, rfl, .inr rfl, unsigned_of_unsigned? unsigned⟩
  · exact ⟨[], number, rfl, .inl rfl, unsigned_of_unsigned? found⟩

lemma Unsigned.unsigned?_append (shape : Unsigned number)
    (stops : ∀ c ∈ rest.head?, isDecimalDigit c = false) (noPoint : rest.head? ≠ some '.') :
    unsigned? (number ++ rest) = some (number, rest) := by
  obtain ⟨whole, point, decimals, rfl, rfl | rfl, given, before, behind⟩ := shape
  · have all : ∀ c ∈ whole ++ decimals, isDecimalDigit c = true := by
      simpa [or_imp, forall_and] using ⟨before, behind⟩
    exact unsigned?_whole all (by simp [given]) stops noPoint
  · simpa using unsigned?_point before behind given stops

lemma Unsigned.noSign (shape : Unsigned number) (rest : Text) :
    (number ++ rest).head? ≠ some '-' := by
  have noDigit : isDecimalDigit '-' = false := by decide
  have other {c : Char} (digit : isDecimalDigit c = true) : c ≠ '-' := by
    rintro rfl
    exact Bool.false_ne_true (noDigit.symm.trans digit)
  obtain ⟨whole, point, decimals, rfl, pointed, given, before, behind⟩ := shape
  cases whole with
  | cons c whole => simpa using other (before c List.mem_cons_self)
  | nil =>
    rcases pointed with rfl | rfl
    · obtain ⟨c, decimals, rfl⟩ := List.exists_cons_of_ne_nil given
      simpa using other (behind c List.mem_cons_self)
    · simp

/-- The converse of `decimal_of_decimal?` and `append_of_decimal?`.  A point behind the number could
start decimals, and so it must not follow either. -/
theorem Decimal.decimal?_append (shape : Decimal number)
    (stops : ∀ c ∈ rest.head?, isDecimalDigit c = false) (noPoint : rest.head? ≠ some '.') :
    decimal? (number ++ rest) = some (number, rest) := by
  obtain ⟨sign, body, rfl, signed, unsigned⟩ := shape
  rw [List.append_assoc]
  exact decimal?_signed signed (unsigned.noSign rest) (unsigned.unsigned?_append stops noPoint)

lemma isDecimal_iff : isDecimal text = true ↔ Decimal text := by
  constructor
  · intro whole
    obtain ⟨⟨number, rest⟩, found, ends⟩ := (Option.any_eq_true _ _).1 whole
    have joined := append_of_decimal? found
    rw [List.isEmpty_iff.1 ends, List.append_nil] at joined
    exact joined ▸ decimal_of_decimal? found
  · intro shape
    have found : decimal? (text ++ []) = some (text, []) :=
      shape.decimal?_append (by simp) (by simp)
    rw [List.append_nil] at found
    simp [isDecimal, found]

/-- `Unsigned` asks for a digit behind the point, so a decimal never ends with one. -/
lemma Decimal.getLast? (shape : Decimal text) :
    ∃ c, text.getLast? = some c ∧ isDecimalDigit c = true := by
  obtain ⟨sign, body, rfl, -, whole, point, decimals, rfl, -, given, -, behind⟩ := shape
  refine ⟨decimals.getLast given, ?_, behind _ (List.getLast_mem given)⟩
  rw [← List.append_assoc, ← List.append_assoc, List.getLast?_append_of_ne_nil _ given,
    List.getLast?_eq_some_getLast given]

/-- By a property of characters, since the form is used to exclude some of them, such as blanks and
parentheses. -/
lemma Decimal.forall_mem {p : Char → Prop} (shape : Decimal text)
    (digits : ∀ c, isDecimalDigit c = true → p c) (minus : p '-') (dot : p '.') :
    ∀ c ∈ text, p c := by
  obtain ⟨sign, _, rfl, signed, whole, point, decimals, rfl, pointed, -, before, behind⟩ := shape
  have first : ∀ c ∈ sign, p c := by
    rcases signed with rfl | rfl
    · exact List.forall_mem_nil p
    · exact List.forall_mem_singleton.2 minus
  have middle : ∀ c ∈ point, p c := by
    rcases pointed with rfl | rfl
    · exact List.forall_mem_nil p
    · exact List.forall_mem_singleton.2 dot
  simp only [List.forall_mem_append]
  exact ⟨first, fun c mem => digits c (before c mem), middle, fun c mem => digits c (behind c mem)⟩

end UtilityCss.Numeral
