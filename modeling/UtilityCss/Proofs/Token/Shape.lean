import UtilityCss.Proofs.Outcome
import UtilityCss.Proofs.Text.Numeral
import UtilityCss.Proofs.Text.Trim
import UtilityCss.Proofs.Token.LineEnd

/-!
# What a step of the lexer can give

A step reads a bare word or something else.  The token of a word depends on the tokens before it
(`Token.classify`).  Everything else is read alike in every context, and there are six kinds of it
(`Emission`): a gap gives nothing, an equals sign gives itself and a value, and a comment, a line
end, a layer marker or a literal gives one token.  Each token has the shape of its reader:
`Operand` for what may stand on either side of an equals sign, `Assigned` for what follows one, and
`Literal` for the rest.

The main statement is `step_reads`, the inversion of a step that succeeds.  A step that fails does
so in every context (`step_error_context`).
-/

namespace UtilityCss.Lexer

variable {prior emitted : List Token} {c : Char} {text rest name word : Text} {token : Token}

/-- Readers are chosen by tests on the first character; a character that passes a test is told by it
from those that do not, which `decide` settles. -/
lemma ne_of_class {d : Char} {q : Char → Bool} (inside : q c = true) (outside : q d = false) :
    c ≠ d := by
  rintro rfl
  exact Bool.false_ne_true (outside.symm.trans inside)

/-! ## Shapes -/

/-- A name that can stand between braces. -/
structure IsName (name : Text) : Prop where
  oneLine : '\n' ∉ name
  unclosed : '}' ∉ name
  trimmed : Text.trim name = name

/-- A bare word. -/
structure IsWord (word : Text) : Prop where
  parts : ∀ c ∈ word, isWordPart c = true
  begins : word.head?.any beginsWord = true
  noNumber : beginsNumber word = false

/-- The fraction of a number, which may be left out. -/
def IsFraction (fraction : Text) : Prop :=
  fraction = [] ∨ ∃ mark digits, fraction = mark :: digits ∧ (mark = '.' ∨ mark = '/') ∧
    digits ≠ [] ∧ ∀ c ∈ digits, c.isDigit = true

/-- The parts of a number. -/
structure IsNumber (sign digits fraction unit : Text) : Prop where
  signed : sign = [] ∨ sign = ['-']
  digital : ∀ c ∈ digits, c.isDigit = true
  fractional : IsFraction fraction
  alphabetic : ∀ c ∈ unit, c.isAlpha = true
  begins : digits ≠ [] ∨ fraction.head? = some '.'

/-- The argument of a pseudo-class with its parentheses, which may be left out: the reader of
arguments reads it to its end. -/
def IsArgument (parenthesised : Text) : Prop :=
  parenthesised = [] ∨
    ∃ inner, parenthesised = '(' :: inner ∧ argument 0 inner = .ok (inner, [])

/-- A character that no reader wants. -/
structure IsSymbol (c : Char) : Prop where
  solid : isBlank c = false
  noMark : c ∉ ['@', '$', ':', '%', '{', '#', '=']
  noWord : beginsWord c = false
  noDigit : c.isDigit = false

/-- A token that may stand on its own or after an equals sign. -/
inductive Operand : Token → Prop
  | reference {name : Text} {unit : Option Text} (named : IsName name)
      (known : ∀ u ∈ unit, u ∈ Vocabulary.units) : Operand (.variableRef name unit)
  | color {digits : Text} (hex : ∀ c ∈ digits, Numeral.isHexDigit c = true)
      (short : digits.length ≤ colorDigits) : Operand (.value (.text ('#' :: digits)))
  | integer {value : Int} (short : (Text.ofNat value.natAbs).length ≤ Numeral.digitLimit) :
      Operand (.value (.integer value))
  | measure {sign digits fraction unit : Text} (parts : IsNumber sign digits fraction unit)
      (noInteger : fraction ≠ [] ∨ unit ≠ []) :
      Operand (.value (.text (sign ++ digits ++ fraction ++ unit)))

/-- A token that stands after an equals sign. -/
inductive Assigned : Token → Prop
  | operand {token : Token} (shape : Operand token) : Assigned token
  | word {word : Text} (shape : IsWord word) (noUnit : word ∉ Vocabulary.units) :
      Assigned (.value (.text word))

/-- A token of a construct that is none of words, comments, line ends, markers and assignments. -/
inductive Literal : Token → Prop
  | mediaValue {literal : Text} (solid : ∀ c ∈ literal, isBlank c = false) (given : literal ≠ [])
      (plain : literal.head? ≠ some '{') : Literal (.mediaValue literal)
  | mediaVariableRef {name : Text} (named : IsName name) : Literal (.mediaVariableRef name)
  | identifier {name : Text} (known : name ∈ Vocabulary.identifiers) : Literal (.identifier name)
  | pseudoClass {name argument : Text} (known : name ∈ Vocabulary.pseudoClasses)
      (closed : IsArgument argument) : Literal (.pseudoClass (':' :: name ++ argument))
  | percent : Literal (.valueType "%")
  | operand {token : Token} (shape : Operand token) : Literal token
  | symbol {c : Char} (shape : IsSymbol c) : Literal (symbol c)

/-- The tokens of a construct that is no word, and the text after it. -/
inductive Emission : List Token → Text → Prop
  | gap (rest : Text) : Emission [] rest
  | comment {visibility : Visibility} {text rest : Text} (oneLine : '\n' ∉ text)
      (trimmed : Text.trim text = text) (ended : rest = [] ∨ rest.head? = some '\n') :
      Emission [.comment visibility text] rest
  | newline (rest : Text) : Emission [.newline] rest
  | layer {name rest : Text} {edge : Edge} (solid : ∀ c ∈ name, isBlank c = false)
      (named : name ≠ []) : Emission [.layer name edge] rest
  | literal {token : Token} {rest : Text} (shape : Literal token) : Emission [token] rest
  | assignment {value : Token} {rest : Text} (shape : Assigned value) :
      Emission [.equals, value] rest

/-! ## References and media widths -/

lemma isName_of_bracedName (h : bracedName text = .ok (name, rest)) : IsName name := by
  simp only [bracedName] at h
  split at h
  · obtain ⟨rfl, rfl⟩ := Prod.mk.inj (Except.ok.inj h)
    have inside {c : Char} (mem : c ∈ Text.trim (text.takeWhile fun c => c != '}' && c != '\n')) :
        (c != '}' && c != '\n') = true :=
      List.mem_takeWhile_imp (p := fun c => c != '}' && c != '\n') (Text.mem_of_mem_trim mem)
    exact ⟨fun mem => by simpa using inside mem, fun mem => by simpa using inside mem,
      Text.trim_trim _⟩
  · simp at h

lemma operand_of_variableRef (h : variableRef text = .ok (token, rest)) : Operand token := by
  unfold variableRef at h
  obtain ⟨⟨name, left⟩, braced, h⟩ := bind_eq_ok_iff.1 h
  have named := isName_of_bracedName braced
  dsimp only at h
  split at h
  · obtain ⟨rfl, rfl⟩ := Prod.mk.inj (Except.ok.inj h)
    exact .reference named (by decide)
  split at h
  · obtain ⟨rfl, rfl⟩ := Prod.mk.inj (Except.ok.inj h)
    exact .reference named (by simp)
  split at h
  · rename_i known
    obtain ⟨rfl, rfl⟩ := Prod.mk.inj (Except.ok.inj h)
    exact .reference named (by simpa using known)
  · simp at h

lemma literal_of_media (h : media text = .ok (token, rest)) : Literal token := by
  unfold media at h
  split at h
  · obtain ⟨⟨name, left⟩, braced, h⟩ := bind_eq_ok_iff.1 h
    obtain ⟨rfl, rfl⟩ := Prod.mk.inj (Except.ok.inj h)
    exact .mediaVariableRef (isName_of_bracedName braced)
  · -- The width is a beginning of the text, which does not begin with a brace.
    rename_i noBrace
    dsimp only at h
    split at h
    · simp at h
    · rename_i given
      obtain ⟨rfl, rfl⟩ := Prod.mk.inj (Except.ok.inj h)
      refine .mediaValue (fun c mem => by simpa using List.mem_takeWhile_imp mem) given ?_
      intro brace
      obtain ⟨tail, shape⟩ := List.head?_eq_some_iff.1 brace
      obtain ⟨after, whole⟩ := List.takeWhile_prefix (l := text) (!isBlank ·)
      rw [shape] at whole
      exact noBrace _ whole.symm

/-! ## Suffixes and pseudo-classes -/

lemma literal_of_identifier (h : identifier text = .ok (token, rest)) : Literal token := by
  simp only [identifier] at h
  split at h
  · rename_i known
    obtain ⟨rfl, rfl⟩ := Prod.mk.inj (Except.ok.inj h)
    exact .identifier known
  · simp at h

/-- `argument` counts parentheses and stops at the one that closes it, so that what was read is read
again before any text; this is what `IsArgument` records. -/
lemma argument_append {opened : Nat} {inner : Text} (h : argument opened text = .ok (inner, rest))
    (below : Text) : argument opened (inner ++ below) = .ok (inner, below) := by
  induction text generalizing opened inner with
  | nil => simp [argument] at h
  | cons c text ih =>
    simp only [argument] at h
    split at h
    · simp at h
    rename_i sameLine
    split at h
    · rename_i closes
      obtain ⟨rfl, rfl⟩ := Prod.mk.inj (Except.ok.inj h)
      simp [argument, closes]
    rename_i goesOn
    split at h
    · simp at h
    · rename_i tail left found
      obtain ⟨rfl, rfl⟩ := Prod.mk.inj (Except.ok.inj h)
      simp only [List.cons_append, argument, if_neg sameLine, if_neg goesOn, ih found]

lemma isArgument_of_pseudoArgument {argument : Text}
    (h : pseudoArgument name text = .ok (argument, rest)) : IsArgument argument := by
  unfold pseudoArgument at h
  split at h
  · split at h
    · simp at h
    · rename_i inner left found
      obtain ⟨rfl, rfl⟩ := Prod.mk.inj (Except.ok.inj h)
      refine .inr ⟨inner, rfl, ?_⟩
      simpa using argument_append found []
  · obtain ⟨rfl, rfl⟩ := Prod.mk.inj (Except.ok.inj h)
    exact .inl rfl

lemma literal_of_pseudoClass (h : pseudoClass text = .ok (token, rest)) : Literal token := by
  unfold pseudoClass at h
  obtain ⟨⟨argument, left⟩, found, h⟩ := bind_eq_ok_iff.1 h
  dsimp only at h
  split at h
  · rename_i known
    obtain ⟨rfl, rfl⟩ := Prod.mk.inj (Except.ok.inj h)
    exact .pseudoClass known (isArgument_of_pseudoArgument found)
  · simp at h

/-! ## Numbers and colours -/

lemma isFraction_fraction (text : Text) : IsFraction (fraction text).1 := by
  unfold fraction
  split
  · split
    · rename_i mark digit rest shape
      refine .inr ⟨mark, digit :: rest.takeWhile Char.isDigit, rfl, shape.1, by simp, ?_⟩
      intro c mem
      rcases List.mem_cons.1 mem with rfl | mem
      · exact shape.2
      · exact List.mem_takeWhile_imp mem
    · exact .inl rfl
  · exact .inl rfl

/-- `beginsNumber` looks ahead without reading; this says what `number` then finds, so that no
number is empty. -/
theorem digits_or_point (begins : beginsNumber text = true) :
    (Text.skip '-' text).takeWhile Char.isDigit ≠ [] ∨
      (fraction ((Text.skip '-' text).dropWhile Char.isDigit)).1.head? = some '.' := by
  cases shape : Text.skip '-' text with
  | nil =>
    rw [beginsNumber, shape] at begins
    simp [Text.skip] at begins
  | cons c rest =>
    by_cases digit : c.isDigit
    · exact .inl (by simp [digit])
    · rw [beginsNumber, shape, Text.skip] at begins
      split at begins
      · rename_i point
        subst point
        cases rest with
        | nil => simp at begins
        | cons d rest =>
          have second : d.isDigit = true := by simpa using begins
          exact .inr (by simp [digit, fraction, second])
      · exact absurd (by simpa using begins) digit

lemma operand_of_number (begins : beginsNumber text = true)
    (h : number text = .ok (token, rest)) : Operand token := by
  simp only [number] at h
  split at h
  · split at h
    · simp at h
    · rename_i value read
      obtain ⟨rfl, rfl⟩ := Prod.mk.inj (Except.ok.inj h)
      exact .integer (Numeral.length_ofNat_le_of_integer read)
  · rename_i noInteger
    obtain ⟨rfl, rfl⟩ := Prod.mk.inj (Except.ok.inj h)
    refine .measure ⟨?_, fun c => List.mem_takeWhile_imp, isFraction_fraction _,
      fun c => List.mem_takeWhile_imp, digits_or_point begins⟩ (not_and_or.1 noInteger)
    split
    · exact .inr rfl
    · exact .inl rfl

lemma operand_color (text : Text) : Operand (color text).1 :=
  .color (fun _ mem => List.mem_takeWhile_imp (List.mem_of_mem_take mem))
    (List.length_take_le _ _)

/-! ## Words -/

lemma beginsNumber_append (begins : beginsNumber text = true) (below : Text) :
    beginsNumber (text ++ below) = true := by
  have given : Text.skip '-' text ≠ [] := by
    intro empty
    rw [beginsNumber, empty] at begins
    simp [Text.skip] at begins
  have whole : text ≠ [] := by
    rintro rfl
    exact given rfl
  unfold beginsNumber at begins ⊢
  rw [Text.skip_append (absurd · whole), Text.skip_append (absurd · given), List.head?_append]
  obtain ⟨digit, first, isDigit⟩ := (Option.any_eq_true _ _).1 begins
  simp [first, isDigit]

lemma isWord_takeWhile (begins : beginsWord c = true)
    (noNumber : beginsNumber (c :: text) = false) : IsWord (c :: text.takeWhile isWordPart) where
  parts d mem := by
    rcases List.mem_cons.1 mem with rfl | mem
    · simp only [beginsWord, Bool.or_eq_true] at begins
      simp only [isWordPart, isNameCharacter, Char.isAlphanum, Bool.or_eq_true]
      tauto
    · exact List.mem_takeWhile_imp mem
  begins := by simpa using begins
  noNumber := by
    by_contra number
    have whole := beginsNumber_append (Bool.eq_true_of_not_eq_false number)
      (text.dropWhile isWordPart)
    rw [List.cons_append, List.takeWhile_append_dropWhile, noNumber] at whole
    exact Bool.false_ne_true whole

lemma assigned_of_unitReference {unit : Text} (known : unit ∈ Vocabulary.units)
    (h : unitReference unit text = .ok (token, rest)) : Assigned token := by
  unfold unitReference at h
  split at h
  · obtain ⟨⟨name, left⟩, braced, h⟩ := bind_eq_ok_iff.1 h
    obtain ⟨rfl, rfl⟩ := Prod.mk.inj (Except.ok.inj h)
    exact .operand (.reference (isName_of_bracedName braced) (by simpa using known))
  · simp at h

lemma assigned_of_assigned (h : assigned text = .ok (token, rest)) : Assigned token := by
  unfold assigned at h
  split at h
  · simp at h
  split at h
  · simp at h
  split at h
  · exact .operand (operand_of_variableRef h)
  split at h
  · rename_i tail _ _ _
    obtain rfl : (color tail).1 = token := congrArg Prod.fst (Except.ok.inj h)
    exact .operand (operand_color tail)
  split at h
  · rename_i begins
    exact .operand (operand_of_number begins h)
  split at h
  · rename_i noNumber begins
    dsimp only at h
    split at h
    · rename_i known
      exact assigned_of_unitReference known h
    · rename_i noUnit
      obtain ⟨rfl, rfl⟩ := Prod.mk.inj (Except.ok.inj h)
      exact .word (isWord_takeWhile begins (Bool.eq_false_of_not_eq_true noNumber)) noUnit
  · simp at h

/-! ## Steps -/

/-- A bare word begins here. -/
structure BeginsBareWord (c : Char) (text : Text) : Prop where
  begins : beginsWord c = true
  noNumber : beginsNumber (c :: text) = false
  noMarker : Text.after? layerKeyword (c :: text) = none

lemma construct_of_word (begins : beginsWord c = true)
    (noNumber : beginsNumber (c :: text) = false) :
    construct prior c text =
      .ok ([Token.classify prior (c :: text.takeWhile isWordPart)], text.dropWhile isWordPart) := by
  rw [construct, if_neg (ne_of_class begins (by decide)),
    if_neg (ne_of_class begins (by decide)), if_neg (ne_of_class begins (by decide)),
    if_neg (Bool.eq_false_iff.1 noNumber), if_pos begins]

lemma construct_of_not_word
    (noWord : ¬ (beginsWord c = true ∧ beginsNumber (c :: text) = false))
    (prior other : List Token) : construct prior c text = construct other c text := by
  unfold construct
  iterate 3
    split
    · rfl
  split
  · rfl
  rename_i noNumber
  split
  · rename_i begins
    exact absurd ⟨begins, Bool.eq_false_of_not_eq_true noNumber⟩ noWord
  · rfl

lemma range_of_isAlpha (letter : c.isAlpha = true) :
    65 ≤ c.toNat ∧ c.toNat ≤ 90 ∨ 97 ≤ c.toNat ∧ c.toNat ≤ 122 := by
  have spelled : (decide ('A'.val ≤ c.val ∧ c.val ≤ 'Z'.val) ||
      (decide ('a'.val ≤ c.val) && decide (c.val ≤ 'z'.val))) = true := letter
  simp only [Bool.or_eq_true, Bool.and_eq_true, decide_eq_true_eq,
    UInt32.le_iff_toNat_le] at spelled
  exact spelled

lemma range_of_isDigit (digit : c.isDigit = true) : 48 ≤ c.toNat ∧ c.toNat ≤ 57 :=
  Char.isDigit_iff_toNat.1 digit

lemma range_of_isWordPart (part : isWordPart c = true) : 33 ≤ c.toNat ∧ c.toNat ≤ 126 := by
  simp only [isWordPart, isNameCharacter, Char.isAlphanum, Bool.or_eq_true, beq_iff_eq] at part
  rcases part with ((((letter | digit) | rfl) | rfl) | rfl)
  · have code := range_of_isAlpha letter
    omega
  · have code := range_of_isDigit digit
    omega
  all_goals decide

/-- By code points: `range_of_isWordPart` against the table of blanks. -/
lemma not_isBlank_of_isWordPart (part : isWordPart c = true) : isBlank c = false := by
  have range := range_of_isWordPart part
  simp only [isBlank, CodeRange.covered, blankRanges, CodeRange.covers, List.any_cons,
    List.any_nil, Bool.or_false, Bool.or_eq_false_iff, Bool.and_eq_false_iff,
    decide_eq_false_iff_not]
  omega

lemma step_of_word (word : BeginsBareWord c text) :
    step prior c text =
      .ok ([Token.classify prior (c :: text.takeWhile isWordPart)], text.dropWhile isWordPart) := by
  have solid : isBlank c = false :=
    not_isBlank_of_isWordPart ((isWord_takeWhile word.begins word.noNumber).parts c (by simp))
  have noGap : ¬ isGap c = true := by simp [isGap, solid]
  have noComment : ¬ (c = '/' ∧ text.head? = some '/') := fun both =>
    ne_of_class word.begins (by decide) both.1
  rw [step, if_neg noGap, if_neg noComment, if_neg (ne_of_class word.begins (by decide)),
    word.noMarker]
  exact construct_of_word word.begins word.noNumber

/-- `Token.classify` is the only place where `construct` looks at the tokens before. -/
lemma step_of_not_word (noWord : ¬ BeginsBareWord c text) (prior other : List Token) :
    step prior c text = step other c text := by
  unfold step
  iterate 3
    split
    · rfl
  cases marker : Text.after? layerKeyword (c :: text) with
  | some marker => rfl
  | none => exact construct_of_not_word (fun word => noWord ⟨word.1, word.2, marker⟩) prior other

lemma emission_of_one {read : Except Stop (Token × Text)}
    (shape : ∀ token rest, read = .ok (token, rest) → Literal token)
    (h : one read = .ok (emitted, rest)) : Emission emitted rest := by
  obtain ⟨⟨token, left⟩, found, same⟩ := map_eq_ok_iff.1 h
  obtain ⟨rfl, rfl⟩ := Prod.mk.inj same
  exact .literal (shape token left found)

lemma emission_comment (text : Text) : Emission [(comment text).1] (comment text).2 := by
  refine .comment ?_ (Text.trim_trim _) ?_
  · intro mem
    simpa using List.mem_takeWhile_imp (Text.mem_of_mem_trim mem)
  · have ended := List.head?_dropWhile_not (· != '\n') (Text.skip '*' text)
    cases left : (Text.skip '*' text).dropWhile (· != '\n') with
    | nil => exact .inl (by simp [comment, left])
    | cons d rest =>
      rw [left] at ended
      exact .inr (by simpa [comment, left] using ended)

lemma emission_of_layerMarker {marker : Text}
    (h : one (layerMarker marker) = .ok (emitted, rest)) : Emission emitted rest := by
  obtain ⟨⟨token, left⟩, found, same⟩ := map_eq_ok_iff.1 h
  obtain ⟨rfl, rfl⟩ := Prod.mk.inj same
  simp only [layerMarker] at found
  split at found
  · simp at found
  split at found
  · simp at found
  · rename_i named _ edge _
    obtain ⟨rfl, rfl⟩ := Prod.mk.inj (Except.ok.inj found)
    exact .layer (fun c mem => by simpa using List.mem_takeWhile_imp mem) named

lemma not_isDigit_of_not_beginsNumber (noNumber : beginsNumber (c :: text) = false) :
    c.isDigit = false := by
  by_contra digit
  have digit := Bool.eq_true_of_not_eq_false digit
  have noSign : c ≠ '-' := ne_of_class digit (by decide)
  have noPoint : c ≠ '.' := ne_of_class digit (by decide)
  simp [beginsNumber, Text.skip, noSign, noPoint, digit] at noNumber

lemma emission_of_construct (solid : isBlank c = false)
    (noWord : ¬ (beginsWord c = true ∧ beginsNumber (c :: text) = false))
    (h : construct prior c text = .ok (emitted, rest)) : Emission emitted rest := by
  unfold construct at h
  split at h
  · exact emission_of_one (fun _ _ => literal_of_media) h
  split at h
  · exact emission_of_one (fun _ _ => literal_of_identifier) h
  split at h
  · exact emission_of_one (fun _ _ => literal_of_pseudoClass) h
  split at h
  · rename_i begins
    exact emission_of_one (fun _ _ read => .operand (operand_of_number begins read)) h
  rename_i noNumber
  have noNumber := Bool.eq_false_of_not_eq_true noNumber
  split at h
  · rename_i begins
    exact absurd ⟨begins, noNumber⟩ noWord
  split at h
  · obtain ⟨rfl, rfl⟩ := Prod.mk.inj (Except.ok.inj h)
    exact .literal .percent
  split at h
  · exact emission_of_one (fun _ _ read => .operand (operand_of_variableRef read)) h
  split at h
  · obtain ⟨rfl, rfl⟩ := Prod.mk.inj (Except.ok.inj h)
    exact .literal (.operand (operand_color text))
  split at h
  · obtain ⟨⟨value, left⟩, found, same⟩ := map_eq_ok_iff.1 h
    obtain ⟨rfl, rfl⟩ := Prod.mk.inj same
    exact .assignment (assigned_of_assigned found)
  · obtain ⟨rfl, rfl⟩ := Prod.mk.inj (Except.ok.inj h)
    exact .literal
      (.symbol ⟨solid, by simp [*], by simp [*], not_isDigit_of_not_beginsNumber noNumber⟩)

lemma emission_of_step (noWord : ¬ BeginsBareWord c text)
    (h : step prior c text = .ok (emitted, rest)) : Emission emitted rest := by
  unfold step at h
  split at h
  · obtain ⟨rfl, rfl⟩ := Prod.mk.inj (Except.ok.inj h)
    exact .gap text
  split at h
  · obtain ⟨rfl, rfl⟩ := Prod.mk.inj (Except.ok.inj h)
    exact emission_comment _
  split at h
  · obtain ⟨rfl, rfl⟩ := Prod.mk.inj (Except.ok.inj h)
    exact .newline text
  rename_i noGap _ noNewline
  cases marker : Text.after? layerKeyword (c :: text) with
  | some marker' =>
    rw [marker] at h
    exact emission_of_layerMarker h
  | none =>
    rw [marker] at h
    have solid : isBlank c = false := by simpa [isGap, noNewline] using noGap
    exact emission_of_construct solid (fun word => noWord ⟨word.1, word.2, marker⟩) h

/-- The inversion of a step that succeeds.  What is said of tokens and contexts starts from here, so
that the readers need not be opened again. -/
theorem step_reads (taken : step prior c text = .ok (emitted, rest)) :
    (∃ word, IsWord word ∧ BeginsBareWord c text ∧
        ∀ other, step other c text = .ok ([Token.classify other word], rest)) ∨
      Emission emitted rest ∧ ∀ other, step other c text = .ok (emitted, rest) := by
  by_cases word : BeginsBareWord c text
  · obtain ⟨-, rfl⟩ := Prod.mk.inj (Except.ok.inj ((step_of_word word).symm.trans taken))
    exact .inl ⟨_, isWord_takeWhile word.begins word.noNumber, word, fun _ => step_of_word word⟩
  · exact .inr ⟨emission_of_step word taken, fun other => step_of_not_word word other prior ▸ taken⟩

theorem step_error_context {stop : Stop} (failed : step prior c text = .error stop)
    (other : List Token) : step other c text = .error stop := by
  by_cases word : BeginsBareWord c text
  · simp [step_of_word word] at failed
  · rw [step_of_not_word word other prior, failed]

/-- Induction on `tokensFrom`, once for all properties of single tokens, such as `Token.Sound`. -/
lemma forall_of_tokensFrom {p : Token → Prop} {read : List Token}
    (kept : ∀ prior c text emitted rest, step prior c text = .ok (emitted, rest) →
      ∀ token ∈ emitted, p token)
    (before : ∀ token ∈ prior, p token) (h : tokensFrom prior text = .ok read) :
    ∀ token ∈ read, p token := by
  fun_induction tokensFrom prior text with
  | case1 prior =>
    obtain rfl := Except.ok.inj h
    simpa using before
  | case2 => simp at h
  | case3 prior c text emitted rest taken ih =>
    refine ih ?_ h
    simp only [List.mem_append, List.mem_reverse]
    rintro token (mem | mem)
    · exact kept _ _ _ _ _ taken token mem
    · exact before token mem

end UtilityCss.Lexer
