import Mathlib.Data.List.DropRight
import UtilityCss.Text.Blank

/-!
# Trimmed texts

Trimming takes blanks away and nothing else: what is left was there before (`mem_of_mem_trim`), a
second time there is nothing to take away (`trim_trim`), and blanks that are added at either end
make no difference (`trim_blank_append`, `trim_append_blank`).
-/

namespace UtilityCss.Text

variable {text blanks : Text} {c : Char}

theorem mem_of_mem_trim (mem : c ∈ trim text) : c ∈ text := by
  have start : c ∈ trimStart text := (List.rdropWhile_prefix isBlank _).subset mem
  exact (List.dropWhile_suffix isBlank).subset start

theorem trim_blank_append (blank : ∀ c ∈ blanks, isBlank c = true) :
    trim (blanks ++ text) = trim text := by
  rw [trim, trimStart, List.dropWhile_append_of_pos blank]
  rfl

lemma trimEnd_append_blank (blank : ∀ c ∈ blanks, isBlank c = true) :
    trimEnd (text ++ blanks) = trimEnd text := by
  have turned : ∀ c ∈ blanks.reverse, isBlank c = true := fun c mem =>
    blank c (List.mem_reverse.1 mem)
  rw [trimEnd, List.reverse_append, List.dropWhile_append_of_pos turned, trimEnd]

theorem trim_append_blank (blank : ∀ c ∈ blanks, isBlank c = true) :
    trim (text ++ blanks) = trim text := by
  induction text with
  | nil =>
    have none : blanks.dropWhile isBlank = [] := List.dropWhile_eq_nil_iff.2 blank
    rw [trim, trim, List.nil_append, trimStart, none]
    rfl
  | cons c text ih =>
    by_cases skipped : isBlank c
    · have single : ∀ d ∈ [c], isBlank d = true := by simpa using skipped
      rw [List.cons_append, ← List.singleton_append, trim_blank_append single, ih,
        ← trim_blank_append single, List.singleton_append]
    · have kept (rest : Text) : trimStart (c :: rest) = c :: rest :=
        List.dropWhile_cons_of_neg skipped
      rw [trim, trim, List.cons_append, kept, kept, ← List.cons_append, trimEnd_append_blank blank]

/-- `trimEnd` takes from the end only, so that the first character is still the one at which
`trimStart` stopped. -/
lemma trimStart_trim (text : Text) : trimStart (trim text) = trim text := by
  cases shape : trim text with
  | nil => rfl
  | cons c rest =>
    obtain ⟨after, whole⟩ := List.rdropWhile_prefix isBlank (trimStart text)
    have first : trimStart text = c :: (rest ++ after) := by
      rw [← whole, ← List.cons_append, ← shape]
      rfl
    have solid : isBlank c = false := by
      have head := List.head?_dropWhile_not isBlank text
      rw [show text.dropWhile isBlank = c :: (rest ++ after) from first] at head
      exact head
    rw [trimStart, List.dropWhile_cons_of_neg (by simp [solid])]

theorem trim_trim (text : Text) : trim (trim text) = trim text := by
  rw [trim, trimStart_trim]
  exact List.rdropWhile_idempotent isBlank (trimStart text)

/-- `trim` as a cut of the text into three parts, the form in which `words_trim` and `brackets_trim`
use it. -/
lemma exists_blanks_trim (text : Text) :
    ∃ before after, text = before ++ trim text ++ after ∧
      (∀ c ∈ before, isBlank c = true) ∧ ∀ c ∈ after, isBlank c = true := by
  refine ⟨text.takeWhile isBlank, ((trimStart text).reverse.takeWhile isBlank).reverse, ?_,
    fun c => List.mem_takeWhile_imp, fun c mem => List.mem_takeWhile_imp (List.mem_reverse.1 mem)⟩
  rw [List.append_assoc, trim, trimEnd, ← List.reverse_append, List.takeWhile_append_dropWhile,
    List.reverse_reverse, trimStart, List.takeWhile_append_dropWhile]

end UtilityCss.Text
