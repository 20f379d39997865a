import UtilityCss.Proofs.Token.Shape

/-!
# Texts that a reader takes whole

Each shape of a token says what its reader was given (`IsName`, `IsWord`, `IsNumber` and so on).
The lemmas here are the converse: a text of that shape is read as that token and no further.  What
follows must not belong to it: for values any character will do that no word and no fraction has
(`Ended`), and all tokens end at the next tab or the end of the source (`Apart`).  At the end stand
the two places that choose a reader by the first character, a step and the value after an equals
sign.
-/

namespace UtilityCss.Lexer

variable {prior : List Token} {c : Char} {text rest below name word digits : Text}
  {p : Char → Bool}

/-! ## Runs of characters -/

/-- Nothing follows, or a tab does. -/
def Apart (below : Text) : Prop := ∀ c ∈ below.head?, c = '\t'

lemma Apart.stops (apart : Apart below) (tab : p '\t' = false) :
    ∀ c ∈ below.head?, p c = false := by
  intro c first
  rw [apart c first, tab]

lemma Apart.head_ne (apart : Apart below) (other : c ≠ '\t') : below.head? ≠ some c :=
  fun first => other (apart c first)

/-- A character that neither a word nor a number goes on with. -/
def EndsValue (c : Char) : Prop := isWordPart c = false ∧ c ≠ '.' ∧ c ≠ '/'

/-- Nothing follows that a value could go on with. -/
def Ended (below : Text) : Prop := ∀ c ∈ below.head?, EndsValue c

lemma Apart.ended (apart : Apart below) : Ended below := by
  intro c first
  rw [apart c first]
  exact ⟨by decide, by decide, by decide⟩

/-- `EndsValue` excludes all characters of words, and letters, digits and hexadecimal digits are
among them; so one condition ends every kind of run. -/
lemma Ended.stops (ended : Ended below) (part : ∀ c, p c = true → isWordPart c = true) :
    ∀ c ∈ below.head?, p c = false := by
  intro c first
  by_contra inside
  have word := part c (Bool.eq_true_of_not_eq_false inside)
  exact Bool.false_ne_true ((ended c first).1.symm.trans word)

lemma isWordPart_of_isAlpha (letter : c.isAlpha = true) : isWordPart c = true := by
  simp [isWordPart, isNameCharacter, Char.isAlphanum, letter]

lemma isWordPart_of_isDigit (digit : c.isDigit = true) : isWordPart c = true := by
  simp [isWordPart, isNameCharacter, Char.isAlphanum, digit]

/-! ## References and media widths -/

lemma bracedName_closed (unclosed : '}' ∉ text) (oneLine : '\n' ∉ text) (below : Text) :
    bracedName (text ++ '}' :: below) = .ok (Text.trim text, below) := by
  have inside : ∀ c ∈ text, (fun c => c != '}' && c != '\n') c = true := by
    intro c mem
    have noBrace : c ≠ '}' := fun same => unclosed (same ▸ mem)
    have noLineEnd : c ≠ '\n' := fun same => oneLine (same ▸ mem)
    simp [noBrace, noLineEnd]
  have closes : ∀ c ∈ ('}' :: below).head?, (fun c => c != '}' && c != '\n') c = false := by
    simp
  simp only [bracedName, Text.takeWhile_run inside closes, Text.dropWhile_run inside closes]

lemma bracedName_written (named : IsName name) (below : Text) :
    bracedName (name ++ '}' :: below) = .ok (name, below) := by
  rw [bracedName_closed named.unclosed named.oneLine, named.trimmed]

/-- Letters behind the brace would be read as a unit, and so would a percent sign; `Ended` excludes
the former and `noPercent` the latter. -/
lemma variableRef_closed (unclosed : '}' ∉ text) (oneLine : '\n' ∉ text) (ended : Ended below)
    (noPercent : below.head? ≠ some '%') :
    variableRef (text ++ '}' :: below) = .ok (.variableRef (Text.trim text) none, below) := by
  have noUnit : ∀ c ∈ ([] : Text), c.isAlpha = true := by simp
  have noLetter := ended.stops fun _ => isWordPart_of_isAlpha
  have none : below.takeWhile Char.isAlpha = [] := Text.takeWhile_run noUnit noLetter
  have all : below.dropWhile Char.isAlpha = below := Text.dropWhile_run noUnit noLetter
  rw [variableRef_of_ne (bracedName_closed unclosed oneLine below) noPercent, none, all, if_pos rfl]

/-- Decided on the table of units.  `variableRef` takes letters for a unit, and the percent sign in
a branch of its own (`variableRef_of_ne`). -/
lemma units_alphabetic {unit : Text} (known : unit ∈ Vocabulary.units) :
    unit = ['%'] ∨ unit ≠ [] ∧ ∀ c ∈ unit, c.isAlpha = true := by
  have all : Vocabulary.units.all
      (fun unit => unit == ['%'] || !unit.isEmpty && unit.all Char.isAlpha) = true := by
    decide
  simpa using List.all_eq_true.1 all unit known

lemma variableRef_written {unit : Option Text} (named : IsName name)
    (known : ∀ u ∈ unit, u ∈ Vocabulary.units) (apart : Apart below) :
    variableRef (name ++ '}' :: (unit.getD [] ++ below)) = .ok (.variableRef name unit, below) := by
  cases unit with
  | none =>
    rw [Option.getD_none, List.nil_append, variableRef_closed named.unclosed named.oneLine
      apart.ended (apart.head_ne (by decide)), named.trimmed]
  | some unit =>
    have noLetter := apart.stops (p := Char.isAlpha) (by decide)
    rcases units_alphabetic (known unit rfl) with rfl | ⟨given, alphabetic⟩
    · simp [variableRef, bracedName_written named, bind, Except.bind]
    · have noPercent : (unit ++ below).head? ≠ some '%' := by
        obtain ⟨c, rest, rfl⟩ := List.exists_cons_of_ne_nil given
        rintro percent
        obtain rfl : c = '%' := by simpa using percent
        simpa using alphabetic '%'
      rw [Option.getD_some, variableRef_of_ne (bracedName_written named _) noPercent,
        Text.takeWhile_run alphabetic noLetter, Text.dropWhile_run alphabetic noLetter,
        if_neg given, if_pos (known unit rfl)]

lemma media_written {literal : Text} (solid : ∀ c ∈ literal, isBlank c = false)
    (given : literal ≠ []) (plain : literal.head? ≠ some '{') (apart : Apart below) :
    media (literal ++ below) = .ok (.mediaValue literal, below) := by
  have noBrace : (literal ++ below).head? ≠ some '{' := by
    rwa [List.head?_append_of_ne_nil literal given]
  have blank := apart.stops (p := (!isBlank ·)) (by decide)
  have solid : ∀ c ∈ literal, (!isBlank c) = true := by simpa using solid
  rw [media_of_ne noBrace, Text.takeWhile_run solid blank, Text.dropWhile_run solid blank,
    if_neg given]

/-! ## Suffixes and pseudo-classes -/

lemma isNameCharacter_of_mem_identifiers (known : name ∈ Vocabulary.identifiers) :
    ∀ c ∈ name, isNameCharacter c = true := by
  have all : Vocabulary.identifiers.all (·.all isNameCharacter) = true := by decide
  exact List.all_eq_true.1 (List.all_eq_true.1 all name known)

lemma isNameCharacter_of_mem_pseudoClasses (known : name ∈ Vocabulary.pseudoClasses) :
    ∀ c ∈ name, isNameCharacter c = true := by
  have all : Vocabulary.pseudoClasses.all (·.all isNameCharacter) = true := by decide
  exact List.all_eq_true.1 (List.all_eq_true.1 all name known)

lemma identifier_written (known : name ∈ Vocabulary.identifiers) (apart : Apart below) :
    identifier (name ++ below) = .ok (.identifier name, below) := by
  have named := isNameCharacter_of_mem_identifiers known
  have ends := apart.stops (p := isNameCharacter) (by decide)
  simp only [identifier, Text.takeWhile_run named ends, Text.dropWhile_run named ends, if_pos known]

lemma pseudoArgument_written {argument : Text} (closed : IsArgument argument)
    (apart : Apart below) : pseudoArgument name (argument ++ below) = .ok (argument, below) := by
  rcases closed with rfl | ⟨inner, rfl, closed⟩
  · have noParenthesis := apart.head_ne (c := '(') (by decide)
    unfold pseudoArgument
    split
    · rename_i shape
      simp [show below = _ from shape] at noParenthesis
    · rfl
  · simp only [List.cons_append, pseudoArgument, argument_append closed below]

lemma pseudoClass_written {argument : Text} (known : name ∈ Vocabulary.pseudoClasses)
    (closed : IsArgument argument) (apart : Apart below) :
    pseudoClass (name ++ (argument ++ below)) =
      .ok (.pseudoClass (':' :: name ++ argument), below) := by
  have named := isNameCharacter_of_mem_pseudoClasses known
  have ends : ∀ c ∈ (argument ++ below).head?, isNameCharacter c = false := by
    rcases closed with rfl | ⟨inner, rfl, -⟩
    · exact apart.stops (by decide)
    · rintro c ⟨⟩
      decide
  simp only [pseudoClass, Text.takeWhile_run named ends, Text.dropWhile_run named ends,
    pseudoArgument_written closed apart, bind, Except.bind, if_pos known]

/-! ## Numbers and colours -/

lemma isWordPart_of_isHexDigit (hex : Numeral.isHexDigit c = true) : isWordPart c = true := by
  simp only [Numeral.isHexDigit, Bool.or_eq_true, Bool.and_eq_true, decide_eq_true_eq] at hex
  rcases hex with (digit | ⟨least, greatest⟩) | ⟨least, greatest⟩
  · exact isWordPart_of_isDigit digit
  · have lower : c.isLower = true :=
      Bool.and_eq_true_iff.2 ⟨decide_eq_true least,
        decide_eq_true (Char.le_trans greatest (by decide : 'f' ≤ 'z'))⟩
    exact isWordPart_of_isAlpha (Bool.or_eq_true_iff.2 (.inr lower))
  · have upper : c.isUpper = true :=
      decide_eq_true ⟨least, Char.le_trans greatest (by decide : 'F' ≤ 'Z')⟩
    exact isWordPart_of_isAlpha (Bool.or_eq_true_iff.2 (.inl upper))

lemma color_written (hex : ∀ c ∈ digits, Numeral.isHexDigit c = true)
    (short : digits.length ≤ colorDigits) (ended : Ended below) :
    color (digits ++ below) = (.value (.text ('#' :: digits)), below) := by
  have ends := ended.stops fun _ => isWordPart_of_isHexDigit
  simp only [color, Text.takeWhile_run hex ends, List.take_of_length_le short, List.drop_left]

section Number

variable {sign fraction unit : Text}

lemma not_isDigit_of_isAlpha (letter : c.isAlpha = true) : c.isDigit = false := by
  by_contra digit
  have here := range_of_isAlpha letter
  have there := range_of_isDigit (Bool.eq_true_of_not_eq_false digit)
  omega

/-- With or without a unit, the digits of a number end here (`noDigit_of_ends`), and so does its
fraction (`fraction_written`). -/
lemma head_unit (alphabetic : ∀ c ∈ unit, c.isAlpha = true) (ended : Ended below) :
    ∀ c ∈ (unit ++ below).head?, c.isAlpha = true ∨ EndsValue c := by
  cases unit with
  | nil => exact fun c first => .inr (ended c first)
  | cons d unit =>
    rintro c ⟨⟩
    exact .inl (alphabetic d List.mem_cons_self)

lemma noDigit_of_ends (ends : ∀ c ∈ rest.head?, c.isAlpha = true ∨ EndsValue c) :
    ∀ c ∈ rest.head?, c.isDigit = false := by
  intro c first
  rcases ends c first with letter | ⟨noWord, -⟩
  · exact not_isDigit_of_isAlpha letter
  · by_contra digit
    have word := isWordPart_of_isDigit (Bool.eq_true_of_not_eq_false digit)
    exact Bool.false_ne_true (noWord.symm.trans word)

lemma fraction_written (shape : IsFraction fraction)
    (ends : ∀ c ∈ rest.head?, c.isAlpha = true ∨ EndsValue c) :
    Lexer.fraction (fraction ++ rest) = (fraction, rest) := by
  have noDigit := noDigit_of_ends ends
  rcases shape with rfl | ⟨mark, digits, rfl, marked, given, digital⟩
  · match rest with
    | [] => rfl
    | [d] => rfl
    | mark :: d :: tail =>
      have noMark : ¬ ((mark = '.' ∨ mark = '/') ∧ d.isDigit) := by
        rintro ⟨rfl | rfl, -⟩
        · simpa [EndsValue] using ends '.' rfl
        · simpa [EndsValue] using ends '/' rfl
      rw [List.nil_append, Lexer.fraction, if_neg noMark]
  · obtain ⟨d, digits, rfl⟩ := List.exists_cons_of_ne_nil given
    have first : d.isDigit = true := digital d List.mem_cons_self
    have others : ∀ c ∈ digits, c.isDigit = true := fun c mem =>
      digital c (List.mem_cons_of_mem d mem)
    rw [List.cons_append, List.cons_append, Lexer.fraction, if_pos ⟨marked, first⟩,
      Text.takeWhile_run others noDigit, Text.dropWhile_run others noDigit]

/-- From `IsNumber.begins` and the digits that a fraction has; it is what `beginsNumber` looks
for. -/
lemma IsNumber.body (parts : IsNumber sign digits fraction unit) (rest : Text) :
    ∃ d tail, d.isDigit = true ∧ (digits ++ (fraction ++ rest) = d :: tail ∨
      digits ++ (fraction ++ rest) = '.' :: d :: tail) := by
  cases digits with
  | cons d digits => exact ⟨d, _, parts.digital d List.mem_cons_self, .inl rfl⟩
  | nil =>
    have point : fraction.head? = some '.' := by simpa using parts.begins
    rcases parts.fractional with rfl | ⟨mark, decimals, rfl, -, given, digital⟩
    · simp at point
    · obtain ⟨d, decimals, rfl⟩ := List.exists_cons_of_ne_nil given
      obtain rfl : mark = '.' := by simpa using point
      exact ⟨d, _, digital d List.mem_cons_self, .inr rfl⟩

lemma beginsNumber_written (parts : IsNumber sign digits fraction unit) (rest : Text) :
    beginsNumber (sign ++ (digits ++ (fraction ++ rest))) = true := by
  obtain ⟨d, tail, digit, shape | shape⟩ := parts.body rest
  · rw [shape]
    have noSign : d ≠ '-' := ne_of_class digit (by decide)
    have noPoint : d ≠ '.' := ne_of_class digit (by decide)
    rcases parts.signed with rfl | rfl
    · simp [beginsNumber, Text.skip, noSign, noPoint, digit]
    · simp [beginsNumber, Text.skip, noPoint, digit]
  · rw [shape]
    rcases parts.signed with rfl | rfl
    · simp [beginsNumber, Text.skip, digit]
    · simp [beginsNumber, Text.skip, digit]

/-- The converse of `operand_of_number`.  Whether `Numeral.integer` accepts the digits is left open,
as some numerals come from values that were read and others from a source. -/
lemma number_written (parts : IsNumber sign digits fraction unit) (ended : Ended below) :
    (fraction = [] ∧ unit = [] →
      number (sign ++ (digits ++ (fraction ++ (unit ++ below)))) =
        match Numeral.integer (sign ++ digits) with
        | .error e => .error ⟨.integerTooLong e, below⟩
        | .ok value => .ok (.value (.integer value), below)) ∧
    (¬ (fraction = [] ∧ unit = []) →
      number (sign ++ (digits ++ (fraction ++ (unit ++ below)))) =
        .ok (.value (.text (sign ++ digits ++ fraction ++ unit)), below)) := by
  have ends := head_unit parts.alphabetic ended
  have noSign : (digits ++ (fraction ++ (unit ++ below))).head? ≠ some '-' := by
    obtain ⟨d, tail, digit, shape | shape⟩ := parts.body (unit ++ below)
    · simpa [shape] using ne_of_class digit (by decide : Char.isDigit '-' = false)
    · simp [shape]
  have skipped : Text.skip '-' (sign ++ (digits ++ (fraction ++ (unit ++ below)))) =
      digits ++ (fraction ++ (unit ++ below)) := by
    rcases parts.signed with rfl | rfl
    · exact Text.skip_append fun _ => noSign
    · simp [Text.skip]
  have signed : (if (sign ++ (digits ++ (fraction ++ (unit ++ below)))).head? = some '-' then ['-']
      else []) = sign := by
    rcases parts.signed with rfl | rfl
    · exact if_neg noSign
    · rfl
  have noDigit : ∀ c ∈ (fraction ++ (unit ++ below)).head?, c.isDigit = false := by
    rcases parts.fractional with rfl | ⟨mark, decimals, rfl, rfl | rfl, -⟩
    · exact noDigit_of_ends ends
    · simp
    · simp
  have noLetter := ended.stops fun _ => isWordPart_of_isAlpha
  simp only [number, skipped, signed, Text.takeWhile_run parts.digital noDigit,
    Text.dropWhile_run parts.digital noDigit, fraction_written parts.fractional ends,
    Text.takeWhile_run parts.alphabetic noLetter, Text.dropWhile_run parts.alphabetic noLetter]
  exact ⟨fun integral => if_pos integral, fun measured => if_neg measured⟩

/-- The two constructors of `Int` as `Text.ofInt` writes them, so that `number_written` applies to
integers that are written back. -/
lemma isNumber_ofInt (value : Int) :
    ∃ sign digits, Text.ofInt value = sign ++ digits ∧ IsNumber sign digits [] [] := by
  have numeral (n : Nat) (sign : Text) (signed : sign = [] ∨ sign = ['-']) :
      IsNumber sign (Text.ofNat n) [] [] :=
    ⟨signed, fun _ => Numeral.isDigit_of_mem_ofNat, .inl rfl, by simp, .inl Nat.toDigits_ne_nil⟩
  cases value with
  | ofNat n => exact ⟨[], Text.ofNat n, rfl, numeral n [] (.inl rfl)⟩
  | negSucc n => exact ⟨['-'], Text.ofNat (n + 1), rfl, numeral (n + 1) ['-'] (.inr rfl)⟩

end Number

/-! ## Words -/

lemma beginsNumber_ended (ended : Ended below) :
    beginsNumber (text ++ below) = beginsNumber text := by
  refine beginsNumber_append_stop fun c first => ?_
  obtain ⟨noWord, noPoint, -⟩ := ended c first
  rintro (digit | rfl | rfl)
  · exact Bool.false_ne_true (noWord.symm.trans (isWordPart_of_isDigit digit))
  · exact absurd noWord (by decide)
  · exact noPoint rfl

/-- A marker begins with `layerKeyword`, which ends with a blank, so that the word before the blank
would be its keyword. -/
lemma noMarker_word (shape : IsWord word) (ended : Ended below)
    (noMarker : word ++ [' '] = layerKeyword → below.head? ≠ some ' ') :
    Text.after? layerKeyword (word ++ below) = none := by
  cases found : Text.after? layerKeyword (word ++ below) with
  | none => rfl
  | some marker =>
    -- Both readings of the text begin with its longest row of word characters.
    have whole := Text.after?_eq_some found
    have run := Text.takeWhile_run shape.parts (ended.stops fun _ => id)
    have keyword : (layerKeyword ++ marker).takeWhile isWordPart = ['L', 'A', 'Y', 'E', 'R'] := by
      simp [layerKeyword, isWordPart, isNameCharacter]
    rw [whole, keyword] at run
    subst run
    obtain rfl : below = ' ' :: marker := by simpa [layerKeyword] using whole
    exact absurd rfl (noMarker rfl)

lemma step_word (prior : List Token) (shape : IsWord word) (ended : Ended below)
    (noMarker : word ++ [' '] = layerKeyword → below.head? ≠ some ' ') :
    ∃ c text, word = c :: text ∧
      step prior c (text ++ below) = .ok ([Token.classify prior word], below) := by
  cases word with
  | nil => simpa using shape.begins
  | cons c text =>
    have ends := ended.stops (p := isWordPart) fun _ => id
    have parts : ∀ d ∈ text, isWordPart d = true := fun d mem =>
      shape.parts d (List.mem_cons_of_mem c mem)
    have begins : BeginsBareWord c (text ++ below) :=
      ⟨by simpa using shape.begins, (beginsNumber_ended ended).trans shape.noNumber,
        noMarker_word shape ended noMarker⟩
    refine ⟨c, text, rfl, ?_⟩
    rw [step_of_word begins, Text.takeWhile_run parts ends, Text.dropWhile_run parts ends]

/-! ## The dispatch -/

lemma step_eq_construct (solid : isBlank c = false)
    (noComment : c ≠ '/' ∨ text.head? ≠ some '/') (noMarker : c ≠ 'L') :
    step prior c text = construct prior c text := by
  have noGap : ¬ isGap c = true := by simp [isGap, solid]
  have noSlashes : ¬ (c = '/' ∧ text.head? = some '/') := by
    rintro ⟨first, second⟩
    exact noComment.elim (· first) (· second)
  have noLineEnd : c ≠ '\n' := by
    rintro rfl
    exact absurd solid (by decide)
  have none : Text.after? layerKeyword (c :: text) = none := by
    simp [layerKeyword, Text.after?, noMarker.symm]
  rw [step, if_neg noGap, if_neg noSlashes, if_neg noLineEnd, none]

lemma beginsNumber_head (begins : beginsNumber (c :: text) = true) :
    c.isDigit = true ∨ c = '-' ∨ c = '.' := by
  by_contra other
  obtain ⟨noDigit, noSign, noPoint⟩ : ¬ c.isDigit = true ∧ c ≠ '-' ∧ c ≠ '.' := by
    simpa [not_or] using other
  simp [beginsNumber, Text.skip, noSign, noPoint, noDigit] at begins

/-- `construct` and `assigned` test for other characters before they look for a number, and
`beginsNumber_head` excludes these. -/
lemma ne_of_beginsNumber {d : Char} (begins : beginsNumber (c :: text) = true)
    (other : ¬ (d.isDigit = true ∨ d = '-' ∨ d = '.')) : c ≠ d := by
  rintro rfl
  exact other (beginsNumber_head begins)

lemma not_isBlank_of_beginsNumber (begins : beginsNumber (c :: text) = true) :
    isBlank c = false := by
  rcases beginsNumber_head begins with digit | rfl | rfl
  · exact not_isBlank_of_isWordPart (by simp [isWordPart, isNameCharacter, Char.isAlphanum, digit])
  · decide
  · decide

lemma step_of_number (begins : beginsNumber (c :: text) = true) :
    step prior c text = one (number (c :: text)) := by
  have solid := not_isBlank_of_beginsNumber begins
  rw [step_eq_construct solid (.inl (ne_of_beginsNumber begins (by decide)))
      (ne_of_beginsNumber begins (by decide)), construct,
    if_neg (ne_of_beginsNumber begins (by decide)), if_neg (ne_of_beginsNumber begins (by decide)),
    if_neg (ne_of_beginsNumber begins (by decide)), if_pos begins]

lemma assigned_of_number (begins : beginsNumber (c :: text) = true) :
    assigned (c :: text) = number (c :: text) := by
  have given : ¬ (c = '\n' ∨ c = '/' ∧ text.head? = some '/') := by
    rintro (lineEnd | slashes)
    · exact ne_of_beginsNumber begins (by decide) lineEnd
    · exact ne_of_beginsNumber begins (by decide) slashes.1
  rw [assigned, if_neg given, if_neg (ne_of_beginsNumber begins (by decide)),
    if_neg (ne_of_beginsNumber begins (by decide)), if_pos begins]

lemma assigned_word (shape : IsWord (c :: text)) (noUnit : c :: text ∉ Vocabulary.units)
    (ended : Ended below) :
    assigned (c :: (text ++ below)) = .ok (.value (.text (c :: text)), below) := by
  have begins : beginsWord c = true := by simpa using shape.begins
  have noNumber : beginsNumber (c :: (text ++ below)) = false :=
    (beginsNumber_ended ended).trans shape.noNumber
  have given : ¬ (c = '\n' ∨ c = '/' ∧ (text ++ below).head? = some '/') := by
    rintro (lineEnd | slashes)
    · exact ne_of_class begins (by decide) lineEnd
    · exact ne_of_class begins (by decide) slashes.1
  have ends := ended.stops (p := isWordPart) fun _ => id
  have parts : ∀ d ∈ text, isWordPart d = true := fun d mem =>
    shape.parts d (List.mem_cons_of_mem c mem)
  rw [assigned, if_neg given, if_neg (ne_of_class begins (by decide)),
    if_neg (ne_of_class begins (by decide)), if_neg (Bool.eq_false_iff.1 noNumber), if_pos begins]
  simp only [Text.takeWhile_run parts ends, Text.dropWhile_run parts ends, if_neg noUnit]

/-- The equals sign and its value are one step; the gaps between them are skipped by that step and
not by `tokensFrom_gap`. -/
lemma step_equals_gaps (gaps : Text) (prior : List Token)
    (wide : ∀ c ∈ gaps, isGap c = true) (solid : isBlank c = false) :
    step prior '=' (gaps ++ c :: text) =
      (assigned (c :: text)).map fun taken => ([.equals, taken.1], taken.2) := by
  have skipped : (gaps ++ c :: text).dropWhile isGap = c :: text := by
    have noGap : ¬ isGap c = true := by simp [isGap, solid]
    rw [List.dropWhile_append_of_pos wide, List.dropWhile_cons_of_neg noGap]
  rw [step_eq_construct (by decide) (.inl (by decide)) (by decide)]
  simp [construct, beginsNumber, Text.skip, beginsWord, skipped]

lemma step_equals {gap : Char} (prior : List Token) (wide : isGap gap = true)
    (solid : isBlank c = false) :
    step prior '=' (gap :: c :: text) =
      (assigned (c :: text)).map fun taken => ([.equals, taken.1], taken.2) :=
  step_equals_gaps [gap] prior (by simpa using wide) solid

lemma tokensFrom_percent (prior : List Token) (below : Text) :
    tokensFrom prior ('%' :: below) = tokensFrom (.valueType "%" :: prior) below := by
  have taken : step prior '%' below = .ok ([.valueType "%"], below) := by
    rw [step_eq_construct (by decide) (.inl (by decide)) (by decide)]
    simp [construct, beginsNumber, Text.skip, beginsWord]
  exact tokensFrom_of_step taken

/-! ## Gaps -/

lemma tokensFrom_gaps {prior : List Token} {gaps : Text} (wide : ∀ c ∈ gaps, isGap c = true) :
    tokensFrom prior (gaps ++ below) = tokensFrom prior below := by
  induction gaps with
  | nil => rfl
  | cons c gaps ih =>
    obtain ⟨here, later⟩ := List.forall_mem_cons.1 wide
    exact (tokensFrom_gap here).trans (ih later)

lemma endsValue_of_isGap (gap : isGap c = true) : EndsValue c := by
  have blank : isBlank c = true := (Bool.and_eq_true_iff.1 gap).1
  refine ⟨?_, ?_, ?_⟩
  · by_contra part
    have solid := not_isBlank_of_isWordPart (Bool.eq_true_of_not_eq_false part)
    exact Bool.false_ne_true (solid.symm.trans blank)
  · rintro rfl
    cases blank
  · rintro rfl
    cases blank

/-- A gap ends a value (`endsValue_of_isGap`); without gaps the text behind has to. -/
lemma ended_gaps {gaps : Text} (wide : ∀ c ∈ gaps, isGap c = true)
    (ended : gaps = [] → Ended below) :
    Ended (gaps ++ below) := by
  cases gaps with
  | nil => exact ended rfl
  | cons c gaps =>
    rintro d ⟨⟩
    exact endsValue_of_isGap (wide c List.mem_cons_self)

end UtilityCss.Lexer
