import UtilityCss.Proofs.Token.Spelling
import UtilityCss.Store

/-!
# Values as they are written

The values of a definition are numbers, colours, words and references, with single blanks between
them and perhaps commas behind them.  Each of them is read as one token (`WrittenValue.ReadAs`), and
a percent sign and a comma as one more.  A word after the first value is the only one whose token
depends on what stands before it (`Token.classify`); the first value is read on its own.

The main statement is `Lexer.tokens_definition`, the tokens of a whole definition.
-/

namespace UtilityCss

/-- A value as it is written. -/
inductive WrittenValue
  | number (sign digits fraction unit : Text)
  | color (digits : Text)
  | word (text : Text)
  /-- What stands between the braces of a reference. -/
  | reference (inside : Text)
deriving DecidableEq, Repr

namespace WrittenValue

def text : WrittenValue → Text
  | .number sign digits fraction unit => sign ++ (digits ++ (fraction ++ unit))
  | .color digits => '#' :: digits
  | .word text => text
  | .reference inside => '{' :: (inside ++ ['}'])

/-- A number has no superfluous zeros, a colour is short, and a word is neither a keyword nor a
unit. -/
def WellFormed : WrittenValue → Prop
  | .number sign digits fraction unit =>
    Lexer.IsNumber sign digits fraction unit ∧ (fraction = [] → ∃ n, digits = Text.ofNat n)
  | .color digits =>
    digits.length ≤ Lexer.colorDigits ∧ ∀ c ∈ digits, Numeral.isHexDigit c = true
  | .word text => Lexer.IsWord text ∧ text ∉ Vocabulary.keywords ∧ text ∉ Vocabulary.units
  | .reference inside => '}' ∉ inside ∧ '\n' ∉ inside

/-- What a value stands for: a reference for the value of its variable, and any other for itself.
Zero has no sign. -/
def rendered (store : Store) : WrittenValue → Text
  | .number sign digits fraction unit =>
    (if fraction = [] ∧ digits = ['0'] then [] else sign) ++ (digits ++ (fraction ++ unit))
  | .reference inside => (store.get? (Text.trim inside)).getD []
  | value => value.text

/-- The token that a value is read as, given what a word is read as. -/
inductive ReadAs (wordToken : Text → Token) : WrittenValue → Token → Prop
  | integer {sign digits : Text} {value : Int}
      (read : Numeral.integer (sign ++ digits) = .ok value) :
      ReadAs wordToken (.number sign digits [] []) (.value (.integer value))
  | measure {sign digits fraction unit : Text} (noInteger : ¬ (fraction = [] ∧ unit = [])) :
      ReadAs wordToken (.number sign digits fraction unit)
        (.value (.text (sign ++ (digits ++ (fraction ++ unit)))))
  | color (digits : Text) : ReadAs wordToken (.color digits) (.value (.text ('#' :: digits)))
  | word (text : Text) : ReadAs wordToken (.word text) (wordToken text)
  | reference (inside : Text) :
      ReadAs wordToken (.reference inside) (.variableRef (Text.trim inside) none)

end WrittenValue

/-- A value with a percent sign and a comma behind it, or without. -/
structure WrittenPart where
  value : WrittenValue
  percent : Bool
  comma : Bool
deriving DecidableEq, Repr

namespace WrittenPart

/-- What is written behind the value, but for the comma. -/
def sign (part : WrittenPart) : Text := if part.percent then ['%'] else []

def tail (part : WrittenPart) : Text := if part.comma then [','] else []

def text (part : WrittenPart) : Text := part.value.text ++ (part.sign ++ part.tail)

/-- Only a number without a unit has a percent sign. -/
structure WellFormed (part : WrittenPart) : Prop where
  value : part.value.WellFormed
  percent : part.percent = true →
    ∃ sign digits fraction, part.value = .number sign digits fraction []

lemma WellFormed.sign_eq_nil {part : WrittenPart} (formed : part.WellFormed)
    (other : ∀ sign digits fraction, part.value ≠ .number sign digits fraction []) :
    part.sign = [] := by
  have bare : part.percent = false := by
    by_contra percent
    obtain ⟨sign, digits, fraction, number⟩ :=
      formed.percent (Bool.eq_true_of_not_eq_false percent)
    exact other sign digits fraction number
  rw [sign, bare, if_neg Bool.false_ne_true]

def rendered (store : Store) (part : WrittenPart) : Text :=
  part.value.rendered store ++ (part.sign ++ part.tail)

/-- The tokens behind that of the value. -/
def suffix (part : WrittenPart) : List Token :=
  (if part.percent then [.valueType "%"] else []) ++
    (if part.comma then [.symbol .comma []] else [])

end WrittenPart

namespace Lexer

open WrittenValue (ReadAs)

variable {prior all : List Token} {value : WrittenValue} {part : WrittenPart} {below : Text}
  {wordToken : Text → Token}

/-! ## One value -/

/-- `number_written` in the terms of `ReadAs`; the one error is an integer with too many digits. -/
lemma number_readAs {sign digits fraction unit : Text} (wordToken : Text → Token)
    (parts : IsNumber sign digits fraction unit) (ended : Ended below) :
    ∃ c rest, (WrittenValue.number sign digits fraction unit).text ++ below = c :: rest ∧
      beginsNumber (c :: rest) = true ∧
      ((∃ token, ReadAs wordToken (.number sign digits fraction unit) token ∧
          number (c :: rest) = .ok (token, below)) ∨
        ∃ stop, number (c :: rest) = .error stop) := by
  have begins := beginsNumber_written parts (unit ++ below)
  obtain ⟨whole, measured⟩ := number_written parts ended
  have spelled : (WrittenValue.number sign digits fraction unit).text ++ below =
      sign ++ (digits ++ (fraction ++ (unit ++ below))) := by
    simp [WrittenValue.text]
  rw [← spelled] at begins whole measured
  cases source : (WrittenValue.number sign digits fraction unit).text ++ below with
  | nil => simp [source, beginsNumber, Text.skip] at begins
  | cons c rest =>
    rw [source] at begins whole measured
    refine ⟨c, rest, rfl, begins, ?_⟩
    by_cases integral : fraction = [] ∧ unit = []
    · rw [whole integral]
      obtain ⟨rfl, rfl⟩ := integral
      cases read : Numeral.integer (sign ++ digits) with
      | error e => exact .inr ⟨_, rfl⟩
      | ok value => exact .inl ⟨_, .integer read, rfl⟩
    · refine .inl ⟨_, .measure integral, ?_⟩
      rw [measured integral]
      simp

/-- `layerKeyword` is a word with a blank behind it, and that word is one of the keywords. -/
lemma noMarker_of_free {word : Text} (free : word ∉ Vocabulary.keywords) :
    word ++ [' '] ≠ layerKeyword := by
  intro marker
  have layer : word = ['L', 'A', 'Y', 'E', 'R'] :=
    (List.append_inj' (marker : word ++ [' '] = ['L', 'A', 'Y', 'E', 'R'] ++ [' ']) rfl).1
  exact free (by rw [layer]; decide)

lemma tokensFrom_bareWord {word : Text} (shape : IsWord word) (ended : Ended below)
    (noMarker : word ++ [' '] ≠ layerKeyword) :
    tokensFrom prior (word ++ below) = tokensFrom (Token.classify prior word :: prior) below := by
  obtain ⟨c, rest, rfl, taken⟩ := step_word prior shape ended (absurd · noMarker)
  exact tokensFrom_of_step taken

lemma tokensFrom_value (formed : value.WellFormed) (ended : Ended below)
    (noPercent : ∀ inside, value = .reference inside → below.head? ≠ some '%')
    (read : tokensFrom prior (value.text ++ below) = .ok all) :
    ∃ token, value.ReadAs (Token.classify prior) token ∧
      tokensFrom (token :: prior) below = .ok all := by
  cases value with
  | number sign digits fraction unit =>
    obtain ⟨parts, -⟩ := formed
    obtain ⟨c, rest, spelled, begins, outcome⟩ := number_readAs (Token.classify prior) parts ended
    rw [spelled] at read
    rcases outcome with ⟨token, shape, taken⟩ | ⟨stop, failed⟩
    · have step : step prior c rest = .ok ([token], below) := by
        rw [step_of_number begins, taken]
        rfl
      exact ⟨token, shape, (tokensFrom_of_step step).symm.trans read⟩
    · have step : step prior c rest = .error stop := by
        rw [step_of_number begins, failed]
        rfl
      simp [tokensFrom_of_step_error step] at read
  | color digits =>
    obtain ⟨short, hex⟩ := formed
    have step : step prior '#' (digits ++ below) =
        .ok ([.value (.text ('#' :: digits))], below) := by
      rw [step_eq_construct (by decide) (.inl (by decide)) (by decide)]
      simp [construct, beginsNumber, Text.skip, beginsWord, color_written hex short ended, one,
        Except.map]
    exact ⟨_, .color digits, (tokensFrom_of_step step).symm.trans read⟩
  | word text =>
    obtain ⟨shape, free, -⟩ := formed
    exact ⟨_, .word _, (tokensFrom_bareWord shape ended (noMarker_of_free free)).symm.trans read⟩
  | reference inside =>
    obtain ⟨unclosed, oneLine⟩ := formed
    have closed := variableRef_closed unclosed oneLine ended (noPercent inside rfl)
    have step : step prior '{' (inside ++ '}' :: below) =
        .ok ([.variableRef (Text.trim inside) none], below) := by
      rw [step_eq_construct (by decide) (.inl (by decide)) (by decide)]
      simp [construct, beginsNumber, Text.skip, beginsWord, closed, one, Except.map]
    have spelled : WrittenValue.text (.reference inside) ++ below =
        '{' :: (inside ++ '}' :: below) := by
      simp [WrittenValue.text]
    rw [spelled] at read
    exact ⟨_, .reference inside, (tokensFrom_of_step step).symm.trans read⟩

/-- A word after an equals sign is not given to `Token.classify`, hence `.value ∘ .text`.  Words
that are units are excluded by `WellFormed`, as `assigned` takes them for the start of a reference
(`unitReference`). -/
lemma assigned_value (formed : value.WellFormed) (ended : Ended below)
    (noPercent : ∀ inside, value = .reference inside → below.head? ≠ some '%') :
    ∃ c rest, value.text ++ below = c :: rest ∧ isBlank c = false ∧
      ((∃ token, value.ReadAs (.value ∘ .text) token ∧ assigned (c :: rest) = .ok (token, below)) ∨
        ∃ stop, assigned (c :: rest) = .error stop) := by
  cases value with
  | number sign digits fraction unit =>
    obtain ⟨parts, -⟩ := formed
    obtain ⟨c, rest, spelled, begins, outcome⟩ := number_readAs (.value ∘ .text) parts ended
    refine ⟨c, rest, spelled, not_isBlank_of_beginsNumber begins, ?_⟩
    rwa [assigned_of_number begins]
  | color digits =>
    obtain ⟨short, hex⟩ := formed
    refine ⟨'#', digits ++ below, rfl, by decide, .inl ⟨_, .color digits, ?_⟩⟩
    simp [assigned, color_written hex short ended]
  | word text =>
    obtain ⟨shape, -, noUnit⟩ := formed
    cases text with
    | nil => simpa using shape.begins
    | cons c text =>
      exact ⟨c, text ++ below, rfl, not_isBlank_of_isWordPart (shape.parts c List.mem_cons_self),
        .inl ⟨_, .word _, assigned_word shape noUnit ended⟩⟩
  | reference inside =>
    obtain ⟨unclosed, oneLine⟩ := formed
    have closed := variableRef_closed unclosed oneLine ended (noPercent inside rfl)
    refine ⟨'{', inside ++ '}' :: below, by simp [WrittenValue.text], by decide,
      .inl ⟨_, .reference inside, ?_⟩⟩
    simp [assigned, closed]

/-! ## Rows of values -/

lemma tokensFrom_blank : tokensFrom prior (' ' :: below) = tokensFrom prior below :=
  tokensFrom_gap (by decide)

lemma tokensFrom_comma :
    tokensFrom prior (',' :: below) = tokensFrom (.symbol .comma [] :: prior) below := by
  have taken : step prior ',' below = .ok ([.symbol .comma []], below) := by
    rw [step_eq_construct (by decide) (.inl (by decide)) (by decide)]
    simp [construct, beginsNumber, Text.skip, beginsWord, symbol]
  exact tokensFrom_of_step taken

/-- `part.suffix` has the tokens of `part.sign` and `part.tail`, none of which depends on
`prior`. -/
lemma tokensFrom_suffix (prior : List Token) (part : WrittenPart) (below : Text) :
    tokensFrom prior (part.sign ++ (part.tail ++ below)) =
      tokensFrom (part.suffix.reverse ++ prior) below := by
  unfold WrittenPart.sign WrittenPart.tail WrittenPart.suffix
  cases part.percent <;> cases part.comma <;> simp [tokensFrom_percent, tokensFrom_comma]

/-- Neither a percent sign nor a comma nor a blank goes on with a value, so that `tokensFrom_value`
may stop there. -/
lemma ended_suffix (part : WrittenPart) (blank : ∀ c ∈ below.head?, c = ' ') :
    Ended (part.sign ++ (part.tail ++ below)) := by
  have stops : ∀ c ∈ (part.sign ++ (part.tail ++ below)).head?, c = '%' ∨ c = ',' ∨ c = ' ' := by
    unfold WrittenPart.sign WrittenPart.tail
    cases part.percent
    · cases part.comma
      · exact fun c first => .inr (.inr (blank c (by simpa using first)))
      · simp
    · simp
  intro c first
  rcases stops c first with rfl | rfl | rfl <;> exact ⟨by decide, by decide, by decide⟩

/-- Only a number has a percent sign (`WellFormed.sign_eq_nil`); `variableRef` would take one for
the unit of the reference. -/
lemma noPercent_suffix (formed : part.WellFormed) (blank : ∀ c ∈ below.head?, c = ' ') :
    ∀ inside, part.value = .reference inside →
      (part.sign ++ (part.tail ++ below)).head? ≠ some '%' := by
  intro inside reference
  rw [formed.sign_eq_nil (by simp [reference]), List.nil_append]
  unfold WrittenPart.tail
  cases part.comma
  · intro first
    exact absurd (blank '%' (by simpa using first)) (by decide)
  · simp

/-- The values of a row with their tokens, each read after the tokens before it. -/
def ReadAll : List Token → List (WrittenPart × Token) → Prop
  | _, [] => True
  | prior, (part, token) :: row =>
    part.value.ReadAs (Token.classify prior) token ∧
      ReadAll (part.suffix.reverse ++ token :: prior) row

lemma head_blank (parts : List WrittenPart) :
    ∀ c ∈ (parts.flatMap (' ' :: ·.text)).head?, c = ' ' := by
  cases parts with
  | nil => simp
  | cons part parts => simp

/-- The tokens of a row. -/
def rowTokens (row : List (WrittenPart × Token)) : List Token :=
  row.flatMap fun (part, token) => token :: part.suffix

lemma tokensFrom_row {parts : List WrittenPart} (formed : ∀ part ∈ parts, part.WellFormed)
    (read : tokensFrom prior (parts.flatMap (' ' :: ·.text)) = .ok all) :
    ∃ row, row.map Prod.fst = parts ∧ ReadAll prior row ∧
      all = prior.reverse ++ rowTokens row := by
  induction parts generalizing prior with
  | nil =>
    rw [List.flatMap_nil, tokensFrom] at read
    exact ⟨[], rfl, trivial, by simpa [rowTokens] using (Except.ok.inj read).symm⟩
  | cons part parts ih =>
    obtain ⟨here, later⟩ := List.forall_mem_cons.1 formed
    have blank := head_blank parts
    rw [List.flatMap_cons, List.cons_append, tokensFrom_blank, WrittenPart.text,
      List.append_assoc, List.append_assoc] at read
    obtain ⟨token, shape, read⟩ := tokensFrom_value here.value (ended_suffix part blank)
      (noPercent_suffix here blank) read
    rw [tokensFrom_suffix] at read
    obtain ⟨row, rfl, shapes, rfl⟩ := ih later read
    exact ⟨(part, token) :: row, rfl, ⟨shape, shapes⟩, by simp [rowTokens]⟩

/-! ## Definitions -/

/-- The tokens before the values of a definition, the last one first. -/
def definitionStart (name : Text) : List Token := [.equals, .variable name, .keyword "VAR"]

/-- A definition as it is written. -/
def definition (name : Text) (parts : List WrittenPart) : Text :=
  "VAR " ++ name ++ " = " ++ Text.join " " (parts.map WrittenPart.text)

lemma classify_definition_name {name : Text} (free : name ∉ Vocabulary.keywords) :
    Token.classify [.keyword "VAR"] name = .variable name := by
  rw [Token.classify, if_neg free]
  simp [Token.statementProperty?, Token.isIdentifier, Token.followsKeyword, Token.isKeyword]

/-- The blank goes with the part behind it, so that the parts after the first can be read by one
induction (`tokensFrom_row`). -/
lemma join_blank (part : Text) (parts : List Text) :
    Text.join " " (part :: parts) = part ++ parts.flatMap (' ' :: ·) := by
  induction parts generalizing part with
  | nil => simp [Text.join]
  | cons next parts ih =>
    rw [Text.join, List.intercalate_cons_cons, List.flatMap_cons, ← Text.join, ih]
    simp

/-- `step_equals` reads the equals sign and the value together, so that the first value is settled
by `assigned_value` and not by `tokensFrom_value` like the others. -/
lemma tokensFrom_first (formed : value.WellFormed) (ended : Ended below)
    (noPercent : ∀ inside, value = .reference inside → below.head? ≠ some '%')
    (read : tokensFrom prior ('=' :: ' ' :: (value.text ++ below)) = .ok all) :
    ∃ token, value.ReadAs (.value ∘ .text) token ∧
      tokensFrom (token :: .equals :: prior) below = .ok all := by
  obtain ⟨c, rest, spelled, solid, outcome⟩ := assigned_value formed ended noPercent
  have dispatched := @step_equals c rest ' ' prior (by decide) solid
  rw [spelled] at read
  rcases outcome with ⟨token, shape, taken⟩ | ⟨stop, failed⟩
  · have step : step prior '=' (' ' :: c :: rest) = .ok ([.equals, token], below) := by
      rw [dispatched, taken]
      rfl
    exact ⟨token, shape, (tokensFrom_of_step step).symm.trans read⟩
  · have step : step prior '=' (' ' :: c :: rest) = .error stop := by
      rw [dispatched, failed]
      rfl
    simp [tokensFrom_of_step_error step] at read

/-- Behind its keyword the name is a variable, whatever else the word could be
(`classify_definition_name`).  Gaps must stand between the two, or they would be one word. -/
lemma tokensFrom_opening {name gaps gaps' : Text} (named : IsWord name)
    (free : name ∉ Vocabulary.keywords) (wide : ∀ c ∈ gaps, isGap c = true)
    (wide' : ∀ c ∈ gaps', isGap c = true) (parted : gaps ≠ []) :
    tokensFrom [] ("VAR".toList ++ (gaps ++ (name ++ (gaps' ++ '=' :: below)))) =
      tokensFrom [.variable name, .keyword "VAR"] ('=' :: below) := by
  have keyword : IsWord "VAR" := ⟨by simp; decide, by decide, by decide⟩
  have start : Token.classify [] "VAR" = .keyword "VAR" := rfl
  have equals : Ended ('=' :: below) := by
    rintro c ⟨⟩
    exact ⟨by decide, by decide, by decide⟩
  rw [tokensFrom_bareWord keyword (ended_gaps wide fun none => absurd none parted) (by decide),
    start, tokensFrom_gaps wide,
    tokensFrom_bareWord named (ended_gaps wide' fun _ => equals) (noMarker_of_free free),
    classify_definition_name free, tokensFrom_gaps wide']

/-- `tokensFrom_opening`, `tokensFrom_first` and `tokensFrom_row`, one after the other.  Only a
reading that succeeds is described, since a number may be refused for its digits
(`number_readAs`). -/
theorem tokens_definition {name : Text} {first : WrittenPart} {later : List WrittenPart}
    (named : IsWord name) (free : name ∉ Vocabulary.keywords)
    (formed : ∀ part ∈ first :: later, part.WellFormed)
    (read : tokens (definition name (first :: later)) = .ok all) :
    ∃ token row, first.value.ReadAs (.value ∘ .text) token ∧ row.map Prod.fst = later ∧
      ReadAll (first.suffix.reverse ++ token :: definitionStart name) row ∧
      all = (definitionStart name).reverse ++ rowTokens ((first, token) :: row) := by
  have gap : ∀ c ∈ [' '], isGap c = true := by simp; decide
  have blank := head_blank later
  have spelled : definition name (first :: later) =
      "VAR".toList ++ ([' '] ++ (name ++ ([' '] ++ '=' :: ' ' :: (first.value.text ++
        (first.sign ++ (first.tail ++ later.flatMap (' ' :: ·.text))))))) := by
    unfold definition
    rw [List.map_cons, join_blank, WrittenPart.text, List.flatMap_map]
    simp
  have read := tokensFrom_of_tokens read
  obtain ⟨here, others⟩ := List.forall_mem_cons.1 formed
  rw [spelled, tokensFrom_opening named free gap gap (List.cons_ne_nil _ _)] at read
  obtain ⟨token, shape, read⟩ := tokensFrom_first here.value (ended_suffix first blank)
    (noPercent_suffix here blank) read
  rw [tokensFrom_suffix] at read
  obtain ⟨row, rfl, shapes, rfl⟩ := tokensFrom_row others read
  exact ⟨token, row, shape, rfl, shapes, by simp [rowTokens, definitionStart]⟩

end Lexer

end UtilityCss
