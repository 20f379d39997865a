import UtilityCss.Proofs.Media.Orientation
import UtilityCss.Proofs.Text.Case
import UtilityCss.Proofs.Token.Shape
import UtilityCss.Proofs.Token.Unread

/-!
# The characters of media conditions

A condition that may be emitted is made of few characters (`Media.isPart_of_isValid`).  Its blanks
may come from anywhere, but its digits are those of ASCII.  A class name tells the digits of the
width, and it takes them from the condition before that is turned round and checked: turning it
round loses no digit (`Media.mem_oriented`), so the check holds for them as well
(`Media.isDigit_of_mem_tag`).
-/

namespace UtilityCss

variable {text condition : Text} {c : Char}

lemma Text.forall_mem_of_dropWhile {p q : Char → Bool} (inside : ∀ c, q c = true → p c = true)
    (rest : ∀ c ∈ text.dropWhile q, p c = true) : ∀ c ∈ text, p c = true := by
  rw [← List.takeWhile_append_dropWhile (p := q) (l := text)]
  exact List.forall_mem_append.2 ⟨fun c mem => inside c (List.mem_takeWhile_imp mem), rest⟩

namespace Media

/-! ## Conditions that may be emitted -/

/-- A character of a condition. -/
def isPart (c : Char) : Bool := isBlank c || isNamePart c || c ∈ ['(', ')', ':', '.', '%']

lemma isPart_of_isBlank (blank : isBlank c = true) : isPart c = true := by simp [isPart, blank]

lemma isPart_of_isNamePart (part : isNamePart c = true) : isPart c = true := by
  simp [isPart, part]

lemma isPart_of_isDigit (digit : c.isDigit = true) : isPart c = true :=
  isPart_of_isNamePart (by simp [isNamePart, Char.isAlphanum, digit])

lemma isPart_of_after? {beginning rest : Text} (listed : beginning.all isPart = true)
    (found : Text.after? beginning text = some rest) (later : ∀ c ∈ rest, isPart c = true) :
    ∀ c ∈ text, isPart c = true := by
  rw [Text.after?_eq_some found]
  exact List.forall_mem_append.2 ⟨List.all_eq_true.1 listed, later⟩

lemma isPart_of_closes (h : closes text = true) : ∀ c ∈ text, isPart c = true := by
  simp only [closes, Bool.or_eq_true, decide_eq_true_eq] at h
  rcases h with rfl | rfl
  · exact List.all_eq_true.1 rfl
  · exact List.all_eq_true.1 rfl

lemma isPart_of_closesAfterUnit (h : closesAfterUnit text = true) :
    ∀ c ∈ text, isPart c = true := by
  have all : units.all (·.all isPart) = true := by decide
  obtain ⟨unit, known, ended⟩ := List.any_eq_true.1 h
  obtain ⟨rest, found, closed⟩ := (Option.any_eq_true _ _).1 ended
  exact isPart_of_after? (List.all_eq_true.1 all unit known) found (isPart_of_closes closed)

lemma isPart_of_isMeasure (h : isMeasure text = true) : ∀ c ∈ text, isPart c = true := by
  have digits {text : Text} (rest : ∀ c ∈ text.dropWhile Char.isDigit, isPart c = true) :
      ∀ c ∈ text, isPart c = true :=
    Text.forall_mem_of_dropWhile (fun _ => isPart_of_isDigit) rest
  simp only [isMeasure, Bool.and_eq_true, Bool.or_eq_true] at h
  refine digits ?_
  rcases h.2 with whole | fractional
  · exact isPart_of_closesAfterUnit whole
  · split at fractional
    · rename_i rest shape
      rw [Bool.and_eq_true] at fractional
      rw [shape]
      exact List.forall_mem_cons.2 ⟨rfl, digits (isPart_of_closesAfterUnit fractional.2)⟩
    · simp at fractional

lemma isPart_of_isCustomProperty (h : isCustomProperty text = true) :
    ∀ c ∈ text, isPart c = true := by
  obtain ⟨name, found, named⟩ := (Option.any_eq_true _ _).1 h
  refine isPart_of_after? rfl found
    (Text.forall_mem_of_dropWhile (fun _ => isPart_of_isNamePart) ?_)
  rw [Bool.and_eq_true] at named
  have ended := named.2
  split at ended
  · rename_i rest shape
    rw [shape]
    exact List.forall_mem_cons.2 ⟨rfl, isPart_of_closes ended⟩
  · simp at ended

theorem isPart_of_isValid (valid : isValid text = true) : ∀ c ∈ text, isPart c = true := by
  have all : [minWidth, maxWidth].all (fun feature => ("(" ++ feature ++ ":").all isPart) = true :=
    by decide
  obtain ⟨feature, known, valid⟩ := List.any_eq_true.1 valid
  obtain ⟨rest, found, valid⟩ := (Option.any_eq_true _ _).1 valid
  refine isPart_of_after? (List.all_eq_true.1 all feature known) found
    (Text.forall_mem_of_dropWhile (fun _ => isPart_of_isBlank) ?_)
  rcases Bool.or_eq_true_iff.1 valid with measure | custom
  · exact isPart_of_isMeasure measure
  · exact isPart_of_isCustomProperty custom

lemma isDigit_of_isPart (part : isPart c = true) (digit : isDecimalDigit c = true) :
    c.isDigit = true := by
  refine isDigit_of_isDecimalDigit ?_ digit
  simp only [isPart, not_isBlank_of_isDecimalDigit digit, Bool.false_or, Bool.or_eq_true,
    decide_eq_true_eq] at part
  rcases part with named | listed
  · have word : Lexer.isWordPart c = true := by
      simp only [isNamePart, Bool.or_eq_true] at named
      rcases named with letter | hyphen
      · simp [Lexer.isWordPart, Lexer.isNameCharacter, letter]
      · simp [Lexer.isWordPart, Lexer.isNameCharacter, hyphen]
    have range := Lexer.range_of_isWordPart word
    omega
  · have all : ['(', ')', ':', '.', '%'].all (·.toNat < 128) = true := rfl
    exact of_decide_eq_true (List.all_eq_true.1 all c listed)

/-! ## The width in a class name -/

lemma mem_of_mem_digits? {digits : Text} (found : digits? text = some digits) (mem : c ∈ digits) :
    isDecimalDigit c = true ∧ c ∈ text := by
  have start {rest : Text} (inside : rest <:+ text) (mem : c ∈ rest.takeWhile isDecimalDigit) :
      isDecimalDigit c = true ∧ c ∈ text :=
    ⟨List.mem_takeWhile_imp mem, inside.mem ((List.takeWhile_prefix _).mem mem)⟩
  have unsigned := Lexer.skip_suffix '-' text
  simp only [digits?] at found
  split at found
  · simp at found
  split at found
  · rename_i rest shape
    obtain rfl := Option.some.inj found
    have fraction : rest <:+ text :=
      (List.suffix_cons '.' rest).trans (shape ▸ (List.dropWhile_suffix _).trans unsigned)
    rcases List.mem_append.1 mem with whole | decimals
    · exact start unsigned whole
    · exact start fraction decimals
  · obtain rfl := Option.some.inj found
    exact start unsigned mem

lemma mem_of_mem_tag (mem : c ∈ tag condition) : isDecimalDigit c = true ∧ c ∈ condition := by
  induction condition with
  | nil => simp [tag] at mem
  | cons d condition ih =>
    have later (mem : c ∈ tag condition) : isDecimalDigit c = true ∧ c ∈ d :: condition :=
      ⟨(ih mem).1, List.mem_cons_of_mem d (ih mem).2⟩
    rw [tag] at mem
    split at mem
    · cases found : digits? (Text.trimStart condition) with
      | none => exact later (by simpa [found] using mem)
      | some digits =>
        rw [found] at mem
        obtain ⟨digit, inside⟩ := mem_of_mem_digits? found mem
        exact ⟨digit, List.mem_cons_of_mem d ((List.dropWhile_sublist _).mem inside)⟩
    · exact later mem

theorem mem_oriented (mobileFirst : Bool) (foreign : c ∉ minWidth) (mem : c ∈ condition) :
    c ∈ oriented mobileFirst condition := by
  unfold oriented
  split
  · exact mem
  · exact Text.mem_replaceAll foreign mem

/-- `Media.tag` takes digits of any script, but `Media.isValid` lets only those of ASCII through,
and `Media.oriented` changes letters only. -/
theorem isDigit_of_mem_tag {mobileFirst : Bool}
    (valid : isValid (oriented mobileFirst condition) = true) (mem : c ∈ tag condition) :
    c.isDigit = true := by
  obtain ⟨digit, inside⟩ := mem_of_mem_tag mem
  have foreign : c ∉ minWidth := by
    intro listed
    have none : minWidth.all (!isDecimalDigit ·) = true := by decide
    have other := List.all_eq_true.1 none c listed
    rw [digit] at other
    exact Bool.false_ne_true other
  have part := isPart_of_isValid valid c (mem_oriented mobileFirst foreign inside)
  exact isDigit_of_isPart part digit

end Media

end UtilityCss
