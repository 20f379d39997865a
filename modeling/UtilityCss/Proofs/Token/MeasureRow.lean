import UtilityCss.Proofs.Text.Numeral
import UtilityCss.Proofs.Token.WrittenValue

/-!
# Rows of measures

A measure is a number with or without a unit.  The measures of a definition stand in a row, with
gaps and commas between them; how wide the gaps are and where they stand makes no difference.

A row is read as the tokens of its measures, one measure after the other, unless an integer without
a unit has too many digits (`Lexer.tokens_measureDefinition`).
-/

namespace UtilityCss

/-- A number as it is written, with what separates it from the next one. -/
structure Measure where
  sign : Text
  digits : Text
  fraction : Text
  unit : Text
  percent : Bool
  separator : Text
  parts : Lexer.IsNumber sign digits fraction unit
  single : percent = true → unit = []
  separates : ∀ c ∈ separator, isGap c = true ∨ c = ','

namespace Measure

variable (m : Measure)

/-- The number and the letters behind it. -/
def body : Text := m.sign ++ (m.digits ++ (m.fraction ++ m.unit))

def percentSign : Text := if m.percent then ['%'] else []

def text : Text := m.body ++ (m.percentSign ++ m.separator)

/-- The commas behind the measure. -/
def commas : Text := List.replicate (m.separator.count ',') ','

/-- The integer that a number without a fraction is. -/
def value : Int :=
  if m.sign = [] then Numeral.magnitude m.digits else -(Numeral.magnitude m.digits : Int)

/-- An integer has not too many digits. -/
def Readable : Prop := m.fraction = [] → m.digits.length ≤ Numeral.digitLimit

/-- The lexer does not refuse the number.  It reads an integer only if no letters follow. -/
def Legible : Prop := m.unit = [] → m.Readable

/-- The literal that the number is read as, and the letters behind it. -/
def literal : Scalar :=
  if m.fraction = [] ∧ m.unit = [] then .integer m.value else .text m.body

/-- The tokens behind that of the number. -/
def suffix : List Token :=
  (if m.percent then [.valueType "%"] else []) ++
    List.replicate (m.separator.count ',') (.symbol .comma [])

def tokens : List Token := .value m.literal :: m.suffix

lemma integer_eq : Numeral.integer (m.sign ++ m.digits) =
    if m.digits.length ≤ Numeral.digitLimit then .ok m.value else .error ⟨m.digits.length⟩ := by
  rcases m.parts.signed with bare | minus
  · rw [value, bare, List.nil_append, if_pos rfl]
    unfold Numeral.integer
    split
    · rename_i shape
      exact absurd (m.parts.digital '-' (by rw [shape]; exact List.mem_cons_self)) (by decide)
    · rw [Numeral.natural]
      split <;> rfl
  · rw [value, minus, List.singleton_append, if_neg (List.cons_ne_nil _ _), Numeral.integer,
      Numeral.natural]
    split <;> rfl

end Measure

namespace Lexer

variable {prior all : List Token} {below : Text} {row : List Measure}

/-! ## Separators -/

lemma tokensFrom_separator {separator : Text}
    (separates : ∀ c ∈ separator, isGap c = true ∨ c = ',') :
    tokensFrom prior (separator ++ below) =
      tokensFrom (List.replicate (separator.count ',') (.symbol .comma []) ++ prior) below := by
  induction separator generalizing prior with
  | nil => rfl
  | cons c separator ih =>
    obtain ⟨here, later⟩ := List.forall_mem_cons.1 separates
    rcases here with gap | rfl
    · have noComma : c ≠ ',' := by
        rintro rfl
        cases gap
      rw [List.cons_append, tokensFrom_gap gap, ih later, List.count_cons_of_ne noComma]
    · rw [List.cons_append, tokensFrom_comma, ih later, List.count_cons_self,
        List.replicate_succ', List.append_assoc, List.singleton_append]

/-! ## One measure -/

/-- `Ended` is what `number_written` asks of the text behind a number, and a percent sign, a gap and
a comma all meet it.  Without any of them the row has to end there, which is what `apart` says; else
two numbers would run together. -/
lemma ended_measure (m : Measure) (apart : m.separator = [] → below = []) :
    Ended (m.percentSign ++ (m.separator ++ below)) := by
  unfold Measure.percentSign
  cases m.percent with
  | true =>
    rintro c ⟨⟩
    exact ⟨by decide, by decide, by decide⟩
  | false =>
    cases shape : m.separator with
    | nil => simp [apart shape, Ended]
    | cons c separator =>
      rintro d ⟨⟩
      rcases m.separates c (shape ▸ List.mem_cons_self) with gap | rfl
      · exact endsValue_of_isGap gap
      · exact ⟨by decide, by decide, by decide⟩

/-- `number_written` in the terms of a measure.  `m.Legible` is the exact condition, so that rows
can be settled by an equivalence (`tokensFrom_measures`). -/
lemma number_measure (m : Measure) (ended : Ended below) :
    ∃ c rest, m.body ++ below = c :: rest ∧ beginsNumber (c :: rest) = true ∧
      (m.Legible → number (c :: rest) = .ok (.value m.literal, below)) ∧
      (¬ m.Legible → ∃ stop, number (c :: rest) = .error stop) := by
  have spelled : m.body ++ below =
      m.sign ++ (m.digits ++ (m.fraction ++ (m.unit ++ below))) := by
    simp [Measure.body]
  have begins := beginsNumber_written m.parts (m.unit ++ below)
  obtain ⟨whole, measured⟩ := number_written m.parts ended
  rw [← spelled] at begins whole measured
  cases source : m.body ++ below with
  | nil => simp [source, beginsNumber, Text.skip] at begins
  | cons c rest =>
    rw [source] at begins whole measured
    refine ⟨c, rest, rfl, begins, ?_⟩
    by_cases integral : m.fraction = [] ∧ m.unit = []
    · rw [whole integral, m.integer_eq, Measure.literal, if_pos integral]
      by_cases short : m.digits.length ≤ Numeral.digitLimit
      · simp [short, Measure.Legible, Measure.Readable]
      · simp [short, Measure.Legible, Measure.Readable, integral]
    · have legible : m.Legible := fun bare whole => absurd ⟨whole, bare⟩ integral
      rw [measured integral, Measure.literal, if_neg integral]
      exact ⟨fun _ => by simp [Measure.body], fun refused => absurd legible refused⟩

lemma tokensFrom_suffix_measure (m : Measure) :
    tokensFrom prior (m.percentSign ++ (m.separator ++ below)) =
      tokensFrom (m.suffix.reverse ++ prior) below := by
  unfold Measure.percentSign Measure.suffix
  cases m.percent <;> simp [tokensFrom_percent, tokensFrom_separator m.separates]

lemma tokensFrom_measure (m : Measure) (apart : m.separator = [] → below = []) :
    tokensFrom prior (m.text ++ below) = .ok all ↔
      m.Legible ∧ tokensFrom (m.tokens.reverse ++ prior) below = .ok all := by
  have parted : m.text ++ below = m.body ++ (m.percentSign ++ (m.separator ++ below)) := by
    simp [Measure.text]
  obtain ⟨c, rest, spelled, begins, read, refused⟩ := number_measure m (ended_measure m apart)
  have dispatched : step prior c rest = one (number (c :: rest)) := step_of_number begins
  rw [parted, spelled]
  by_cases legible : m.Legible
  · rw [read legible] at dispatched
    rw [tokensFrom_of_step dispatched, tokensFrom_suffix_measure]
    simp [legible, Measure.tokens]
  · obtain ⟨stop, failed⟩ := refused legible
    rw [failed] at dispatched
    rw [tokensFrom_of_step_error dispatched]
    simp [legible]

/-! ## Rows -/

/-- `MeasureDefinition.separated` leaves out the last measure; this is the form in which
`ended_measure` asks for it. -/
lemma apart_of_separated {m : Measure} (separated : ∀ n ∈ (m :: row).dropLast, n.separator ≠ []) :
    m.separator = [] → row.flatMap Measure.text = [] := by
  cases row with
  | nil => exact fun _ => rfl
  | cons next row => exact fun none => absurd none (separated m List.mem_cons_self)

lemma separated_tail {m : Measure} (separated : ∀ n ∈ (m :: row).dropLast, n.separator ≠ []) :
    ∀ n ∈ row.dropLast, n.separator ≠ [] := by
  cases row with
  | nil => simp
  | cons next row => exact fun n mem => separated n (List.mem_cons_of_mem m mem)

lemma tokensFrom_measures (separated : ∀ m ∈ row.dropLast, m.separator ≠ []) :
    tokensFrom prior (row.flatMap Measure.text) = .ok all ↔
      (∀ m ∈ row, m.Legible) ∧ all = prior.reverse ++ row.flatMap Measure.tokens := by
  induction row generalizing prior with
  | nil => simp [tokensFrom, eq_comm]
  | cons m row ih =>
    rw [List.flatMap_cons, tokensFrom_measure m (apart_of_separated separated),
      ih (separated_tail separated), List.forall_mem_cons]
    simp [and_assoc]

end Lexer

/-! ## Definitions -/

/-- A definition of a variable by a row of measures, as it is written. -/
structure MeasureDefinition where
  indent : Text
  name : Text
  /-- The gaps before the name, before the equals sign and behind it. -/
  gaps : Text × Text × Text
  first : Measure
  later : List Measure
  indented : ∀ c ∈ indent, isGap c = true
  named : Lexer.IsWord name
  free : name ∉ Vocabulary.keywords
  parted : gaps.1 ≠ []
  wide : ∀ c ∈ gaps.1 ++ (gaps.2.1 ++ gaps.2.2), isGap c = true
  separated : ∀ m ∈ (first :: later).dropLast, m.separator ≠ []

namespace MeasureDefinition

variable (d : MeasureDefinition)

def row : List Measure := d.first :: d.later

def source : Text :=
  d.indent ++ ("VAR".toList ++ (d.gaps.1 ++ (d.name ++ (d.gaps.2.1 ++
    '=' :: (d.gaps.2.2 ++ d.row.flatMap Measure.text)))))

end MeasureDefinition

namespace Lexer

variable {all : List Token}

/-- The first measure is read together with the equals sign (`step_equals_gaps`), the others one
after the other (`tokensFrom_measures`).  An integer that a unit follows is kept as a text, however
long it is, and so the lexer refuses fewer measures than a definition does (`Measure.Legible`,
`Measure.Readable`). -/
theorem tokens_measureDefinition (d : MeasureDefinition) :
    tokens d.source = .ok all ↔
      (∀ m ∈ d.row, m.Legible) ∧
        all = .keyword "VAR" :: .variable d.name :: .equals :: d.row.flatMap Measure.tokens := by
  obtain ⟨wide, wide', wide''⟩ : (∀ c ∈ d.gaps.1, isGap c = true) ∧
      (∀ c ∈ d.gaps.2.1, isGap c = true) ∧ ∀ c ∈ d.gaps.2.2, isGap c = true := by
    simpa [or_imp, forall_and] using d.wide
  have whole : tokens d.source = .ok all ↔ tokensFrom [] d.source = .ok all :=
    ⟨tokensFrom_of_tokens, tokens_of_tokensFrom⟩
  rw [whole, MeasureDefinition.source, tokensFrom_gaps d.indented,
    tokensFrom_opening d.named d.free wide wide' d.parted, MeasureDefinition.row,
    List.flatMap_cons]
  obtain ⟨c, rest, spelled, begins, read, refused⟩ :=
    number_measure d.first (ended_measure d.first (apart_of_separated d.separated))
  have parted : d.first.text ++ d.later.flatMap Measure.text = c :: rest := by
    rw [← spelled]
    simp [Measure.text]
  have dispatched : step [.variable d.name, .keyword "VAR"] '=' (d.gaps.2.2 ++ c :: rest) =
      (number (c :: rest)).map fun taken => ([.equals, taken.1], taken.2) := by
    rw [step_equals_gaps _ _ wide'' (not_isBlank_of_beginsNumber begins),
      assigned_of_number begins]
  rw [parted, List.forall_mem_cons]
  by_cases legible : d.first.Legible
  · rw [read legible] at dispatched
    rw [tokensFrom_of_step dispatched, tokensFrom_suffix_measure,
      tokensFrom_measures (separated_tail d.separated)]
    simp [legible, Measure.tokens]
  · obtain ⟨stop, failed⟩ := refused legible
    rw [failed] at dispatched
    rw [tokensFrom_of_step_error dispatched]
    simp [legible]

end Lexer

end UtilityCss
