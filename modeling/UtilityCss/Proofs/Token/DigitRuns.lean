import Mathlib.Data.List.DropRight
import UtilityCss.Proofs.Store.Literal
import UtilityCss.Proofs.Token.Unread

/-!
# Runs of digits

An integer has at most `Numeral.digitLimit` digits.  One with more of them is no mistake that a
stage reports, but the end of the run, so it matters where integers come from.  The lexer reads them
itself, and a definition reads them once more from the texts of literals (`Slot.read`).  In both
cases their digits stand next to each other in the source, inside one of its runs of digits
(`Text.exists_digitRun`).  So if these are short, the lexer stops with faults of its own only, and
all literals that it reads can be split (`tokensFrom_sound`).
-/

namespace UtilityCss

variable {text digits : Text}

/-! ## Runs -/

/-- A row of digits in a text that no further digit borders on. -/
structure Text.DigitRun (text run : Text) : Prop where
  digital : ∀ c ∈ run, c.isDigit = true
  placed : ∃ before after, text = before ++ run ++ after ∧
    (∀ c ∈ before.getLast?, c.isDigit = false) ∧ ∀ c ∈ after.head?, c.isDigit = false

lemma Text.DigitRun.length_le {run : Text} (isRun : DigitRun text run) :
    run.length ≤ text.length := by
  obtain ⟨before, after, rfl, -⟩ := isRun.placed
  simp only [List.length_append]
  omega

/-- The row is extended at both ends as far as digits go; so a bound on runs, which can be seen in
the source, bounds all rows of digits (`Text.bounded_of_digitRun`). -/
theorem Text.exists_digitRun (inside : digits <:+: text)
    (digital : ∀ c ∈ digits, c.isDigit = true) :
    ∃ run, DigitRun text run ∧ digits.length ≤ run.length := by
  obtain ⟨before, after, rfl⟩ := inside
  have parts : before.rdropWhile Char.isDigit ++ before.rtakeWhile Char.isDigit = before := by
    rw [List.rdropWhile, List.rtakeWhile, ← List.reverse_append, List.takeWhile_append_dropWhile,
      List.reverse_reverse]
  refine ⟨before.rtakeWhile Char.isDigit ++ digits ++ after.takeWhile Char.isDigit,
    ⟨?_, before.rdropWhile Char.isDigit, after.dropWhile Char.isDigit, ?_, ?_, ?_⟩, ?_⟩
  · simp only [List.mem_append]
    rintro c ((mem | mem) | mem)
    · exact List.mem_rtakeWhile_imp mem
    · exact digital c mem
    · exact List.mem_takeWhile_imp mem
  · simp only [← List.append_assoc, parts]
    rw [List.append_assoc (before ++ digits), List.takeWhile_append_dropWhile]
  · intro c last
    obtain ⟨given, rfl⟩ := List.mem_getLast?_eq_getLast last
    exact Bool.eq_false_of_not_eq_true (List.rdropWhile_last_not Char.isDigit before given)
  · intro c first
    have stops := List.head?_dropWhile_not Char.isDigit after
    rw [Option.mem_def.1 first] at stops
    exact stops
  · simp only [List.length_append]
    omega

/-- No row of digits is longer than an integer may be. -/
def Text.Bounded (text : Text) : Prop :=
  ∀ digits, digits <:+: text → (∀ c ∈ digits, c.isDigit = true) →
    digits.length ≤ Numeral.digitLimit

lemma Text.bounded_of_digitRun
    (short : ∀ run, Text.DigitRun text run → run.length ≤ Numeral.digitLimit) : Bounded text := by
  intro digits inside digital
  obtain ⟨run, isRun, contains⟩ := exists_digitRun inside digital
  exact Nat.le_trans contains (short run isRun)

lemma Text.Bounded.of_suffix (bounded : Bounded text) {rest : Text} (left : rest <:+ text) :
    Bounded rest :=
  fun digits inside => bounded digits (inside.trans left.isInfix)

/-! ## Integers -/

lemma Numeral.integer_of_short {sign : Text} (signed : sign = [] ∨ sign = ['-'])
    (digital : ∀ c ∈ digits, c.isDigit = true) (short : digits.length ≤ digitLimit) :
    ∃ value, integer (sign ++ digits) = .ok value := by
  have read : natural digits = .ok (magnitude digits) := if_pos short
  rcases signed with rfl | rfl
  · rw [List.nil_append]
    unfold integer
    split
    · exact absurd (digital '-' List.mem_cons_self) (by decide)
    · exact ⟨_, by rw [read]; rfl⟩
  · exact ⟨_, by rw [List.singleton_append, integer, read]; rfl⟩

/-- `Slot.read` converts integers only (`isInteger_written`), and refuses none but those with too
many digits. -/
lemma Slot.read_of_short {sign fraction unit : Text}
    (parts : Lexer.IsNumber sign digits fraction unit)
    (short : digits.length ≤ Numeral.digitLimit) :
    ∃ slot, read (sign ++ digits ++ fraction ++ unit) = .ok slot := by
  rw [List.append_assoc, List.append_assoc, read, number?_written parts]
  dsimp only
  split
  · rename_i integral
    obtain rfl := (isInteger_written parts).1 integral
    obtain ⟨value, whole⟩ := Numeral.integer_of_short parts.signed parts.digital short
    rw [List.append_nil, whole]
    exact ⟨_, rfl⟩
  · exact ⟨_, rfl⟩

/-! ## Readers -/

/-- The stage reports the fault. -/
def LexFault.Reported : LexFault → Prop
  | .integerTooLong _ => False
  | _ => True

/-- If the token is the text of a literal, it can be split into number and unit. -/
def Token.Legible : Token → Prop
  | .value (.text text) => ∃ slot, Slot.read text = .ok slot
  | _ => True

namespace Lexer

variable {prior : List Token} {c : Char} {rest word : Text}

/-- What a reader gives can be split, and what it refuses is reported. -/
def Fair : Except Stop (Token × Text) → Prop
  | .ok (token, _) => token.Legible
  | .error stop => stop.fault.Reported

lemma reported_of_bracedName {stop : Stop} (failed : bracedName text = .error stop) :
    stop.fault.Reported := by
  simp only [bracedName] at failed
  split at failed
  · simp at failed
  · obtain rfl := Except.error.inj failed
    trivial

lemma fair_variableRef (text : Text) : Fair (variableRef text) := by
  unfold variableRef
  cases named : bracedName text with
  | error stop => exact reported_of_bracedName named
  | ok pair =>
    simp only [bind, Except.bind]
    split
    · trivial
    split
    · trivial
    split
    · trivial
    · trivial

lemma fair_media (text : Text) : Fair (media text) := by
  unfold media
  split
  · rename_i rest
    cases named : bracedName rest with
    | error stop => exact reported_of_bracedName named
    | ok pair => trivial
  · dsimp only
    split
    · trivial
    · trivial

lemma fair_identifier (text : Text) : Fair (identifier text) := by
  simp only [identifier]
  split
  · trivial
  · trivial

lemma fair_pseudoClass (text : Text) : Fair (pseudoClass text) := by
  simp only [pseudoClass, pseudoArgument]
  split
  · split
    · trivial
    · simp only [bind, Except.bind]
      split
      · trivial
      · trivial
  · simp only [bind, Except.bind]
    split
    · trivial
    · trivial

lemma fair_layerMarker (text : Text) : Fair (layerMarker text) := by
  simp only [layerMarker]
  split
  · trivial
  split
  · trivial
  · trivial

lemma fair_color (text : Text) : Fair (.ok (color text)) :=
  ⟨_, Slot.read_color _⟩

lemma fair_number (begins : beginsNumber text = true) (bounded : text.Bounded) :
    Fair (number text) := by
  have short : ((Text.skip '-' text).takeWhile Char.isDigit).length ≤ Numeral.digitLimit :=
    bounded _ ((List.takeWhile_prefix _).isInfix.trans (skip_suffix '-' text).isInfix)
      fun _ => List.mem_takeWhile_imp
  have signed : (if text.head? = some '-' then ['-'] else []) = [] ∨
      (if text.head? = some '-' then ['-'] else []) = ['-'] := by
    split
    · exact .inr rfl
    · exact .inl rfl
  simp only [number]
  split
  · obtain ⟨value, whole⟩ :=
      Numeral.integer_of_short signed (fun _ => List.mem_takeWhile_imp) short
    rw [whole]
    trivial
  · exact Slot.read_of_short ⟨signed, fun _ => List.mem_takeWhile_imp, isFraction_fraction _,
      fun _ => List.mem_takeWhile_imp, digits_or_point begins⟩ short

lemma fair_unitReference (unit text : Text) : Fair (unitReference unit text) := by
  unfold unitReference
  split
  · rename_i rest _
    cases named : bracedName rest with
    | error stop => exact reported_of_bracedName named
    | ok pair => trivial
  · trivial

lemma fair_assigned (bounded : text.Bounded) : Fair (assigned text) := by
  unfold assigned
  split
  · trivial
  rename_i c rest
  split
  · trivial
  split
  · exact fair_variableRef rest
  split
  · exact fair_color rest
  split
  · rename_i begins
    exact fair_number begins bounded
  rename_i noNumber
  split
  · rename_i begins
    dsimp only
    split
    · exact fair_unitReference _ _
    · exact ⟨_, Slot.read_word
        (isWord_takeWhile begins (Bool.eq_false_of_not_eq_true noNumber))⟩
  · trivial

/-! ## Steps -/

/-- All that a step gives can be split, and what it refuses is reported. -/
def Sound : Except Stop (List Token × Text) → Prop
  | .ok (emitted, _) => ∀ token ∈ emitted, token.Legible
  | .error stop => stop.fault.Reported

lemma sound_one {read : Except Stop (Token × Text)} (fair : Fair read) :
    Sound (one read) := by
  cases read with
  | error stop => exact fair
  | ok pair => exact List.forall_mem_singleton.2 fair

lemma legible_classify (shape : IsWord word) (prior : List Token) :
    (Token.classify prior word).Legible := by
  unfold Token.classify
  split
  · trivial
  split
  · trivial
  split
  · exact ⟨_, Slot.read_word shape⟩
  split
  · trivial
  split
  · trivial
  · trivial

lemma legible_symbol (c : Char) : (symbol c).Legible := by
  unfold symbol
  repeat' split
  all_goals trivial

lemma sound_construct (bounded : Text.Bounded (c :: text)) : Sound (construct prior c text) := by
  unfold construct
  split
  · exact sound_one (fair_media text)
  split
  · exact sound_one (fair_identifier text)
  split
  · exact sound_one (fair_pseudoClass text)
  split
  · rename_i begins
    exact sound_one (fair_number begins bounded)
  rename_i noNumber
  split
  · rename_i begins
    have shape := isWord_takeWhile begins (Bool.eq_false_of_not_eq_true noNumber)
    exact List.forall_mem_singleton.2 (legible_classify shape prior)
  split
  · exact List.forall_mem_singleton.2 trivial
  split
  · exact sound_one (fair_variableRef text)
  split
  · exact sound_one (fair_color text)
  split
  · have left : text.dropWhile isGap <:+ c :: text :=
      (List.dropWhile_suffix isGap).trans (List.suffix_cons c text)
    have value := fair_assigned (bounded.of_suffix left)
    cases read : assigned (text.dropWhile isGap) with
    | error stop =>
      rw [read] at value
      exact value
    | ok pair =>
      rw [read] at value
      exact List.forall_mem_cons.2 ⟨trivial, List.forall_mem_singleton.2 value⟩
  · exact List.forall_mem_singleton.2 (legible_symbol c)

lemma sound_step (prior : List Token) (bounded : Text.Bounded (c :: text)) :
    Sound (step prior c text) := by
  unfold step
  split
  · exact List.forall_mem_nil _
  split
  · exact List.forall_mem_singleton.2 trivial
  split
  · exact List.forall_mem_singleton.2 trivial
  cases Text.after? layerKeyword (c :: text) with
  | none => exact sound_construct bounded
  | some marker => exact sound_one (fair_layerMarker marker)

/-- `sound_step` along the reading; what is left after a step is an end of the text (`step_suffix`),
so that it is bounded again (`Text.Bounded.of_suffix`). -/
theorem tokensFrom_sound (bounded : text.Bounded) (legible : ∀ token ∈ prior, token.Legible) :
    match tokensFrom prior text with
    | .ok tokens => ∀ token ∈ tokens, token.Legible
    | .error stop => stop.fault.Reported := by
  fun_induction tokensFrom prior text with
  | case1 prior => simpa using legible
  | case2 prior c text stop taken =>
    have sound := sound_step prior bounded
    rw [taken] at sound
    exact sound
  | case3 prior c text emitted rest taken ih =>
    have sound := sound_step prior bounded
    have left := step_suffix prior c text
    rw [taken] at sound left
    refine ih (bounded.of_suffix left) ?_
    simp only [List.mem_append, List.mem_reverse]
    rintro token (mem | mem)
    · exact sound token mem
    · exact legible token mem

end Lexer

end UtilityCss
