import UtilityCss.Proofs.Token.Marker
import UtilityCss.Proofs.Token.Spelling

/-!
# Tokens written back

`Token.surface` is a token as it may be written, and `Token.written` is a source of given tokens,
with tabs between them.  If the tokens are those of some source, the source that is written from
them has the same tokens (`Lexer.tokens_written`).

The two sources may differ much: gaps are gone, numerals have lost their zeros, and a suffix that
was recognised without its sign is written with it.  What carries the proof is that a token which
was read has the shape of its reader (`Lexer.Literal`, `Lexer.Assigned`, `Lexer.IsWord`), and that
a reader takes a text of its shape up to the next tab and no further (`Apart`).  The class of a word
depends on the tokens before it, and those are the same in both sources.
-/

namespace UtilityCss

/-! ## Surface forms -/

/-- What stands after the slashes of a comment. -/
def Visibility.mark : Visibility → Text
  | .shown => ['*']
  | .hidden => []

/-- A token as it is written in a source. -/
def Token.surface : Token → Text
  | .keyword name => name
  | .property name => name
  | .identifier name => '$' :: name
  | .value literal => literal.toText
  | .valueType unit => unit
  | .variable name => name
  | .variableRef name unit => '{' :: (name ++ '}' :: unit.getD [])
  | .mediaValue literal => '@' :: literal
  | .mediaVariableRef name => '@' :: '{' :: (name ++ ['}'])
  | .pseudoClass name => name
  | .comment visibility text => '/' :: '/' :: (visibility.mark ++ ' ' :: text)
  | .layer name edge => Lexer.markerLine name edge []
  | .symbol .leftBrace _ => ['{']
  | .symbol .rightBrace _ => ['}']
  | .symbol .leftBracket _ => ['[']
  | .symbol .rightBracket _ => [']']
  | .symbol .comma _ => [',']
  | .symbol .equals _ => ['=']
  | .symbol .newline _ => ['\n']
  | .symbol .unknown char => char

/-- A source of the given tokens: their surface forms with tabs between them. -/
def Token.written (tokens : List Token) : Text := Text.join ['\t'] (tokens.map Token.surface)

namespace Lexer

variable {prior : List Token} {c : Char} {text rest below name word : Text} {token : Token}

/-! ## Values -/

/-- An operand may stand on its own or after an equals sign, where readers are chosen in different
ways; the three cases name the reader without fixing who asks for it (`tokensFrom_operand`,
`assigned_written`). -/
lemma operand_written (shape : Operand token) (apart : Apart below) :
    (∃ text, token.surface = '{' :: text ∧ variableRef (text ++ below) = .ok (token, below)) ∨
      (∃ text, token.surface = '#' :: text ∧ color (text ++ below) = (token, below)) ∨
        ∃ c text, token.surface = c :: text ∧ beginsNumber (c :: (text ++ below)) = true ∧
          number (c :: (text ++ below)) = .ok (token, below) := by
  -- What begins a number is not empty, so it has a first character to be chosen by.
  have numeric (begins : beginsNumber token.surface = true)
      (read : number (token.surface ++ below) = .ok (token, below)) :
      ∃ c text, token.surface = c :: text ∧ beginsNumber (c :: (text ++ below)) = true ∧
        number (c :: (text ++ below)) = .ok (token, below) := by
    cases written : token.surface with
    | nil => simp [written, beginsNumber, Text.skip] at begins
    | cons c text =>
      rw [written] at begins read
      exact ⟨c, text, rfl, beginsNumber_append begins below, read⟩
  cases shape with
  | @reference name unit named known =>
    refine .inl ⟨name ++ '}' :: unit.getD [], rfl, ?_⟩
    rw [List.append_assoc, List.cons_append, variableRef_written named known apart]
  | @color digits hex short => exact .inr (.inl ⟨digits, rfl, color_written hex short apart.ended⟩)
  | @integer value short =>
    obtain ⟨sign, digits, spelled, parts⟩ := isNumber_ofInt value
    have begins := beginsNumber_written parts []
    have read := (number_written parts apart.ended).1 ⟨rfl, rfl⟩
    rw [← spelled, Numeral.integer_ofInt short] at read
    have surface : Token.surface (.value (.integer value)) = sign ++ digits := spelled
    rw [surface] at numeric ⊢
    exact .inr (.inr (numeric (by simpa using begins) (by simpa using read)))
  | @measure sign digits fraction unit parts noInteger =>
    have begins := beginsNumber_written parts unit
    have read := (number_written parts apart.ended).2 (not_and_or.2 noInteger)
    have surface : Token.surface (.value (.text (sign ++ digits ++ fraction ++ unit))) =
        sign ++ (digits ++ (fraction ++ unit)) := by
      simp [Token.surface, Scalar.toText]
    rw [surface] at numeric ⊢
    exact .inr (.inr (numeric begins (by simpa using read)))

/-! ## Words -/

/-- A suffix may have been a bare word, and its surface has the sign before it; either way it is
read as the same token (`tokensFrom_identifier`). -/
lemma surface_classify (prior : List Token) (word : Text) :
    (Token.classify prior word).surface = word ∨
      Token.classify prior word = .identifier word ∧ word ∈ Vocabulary.identifiers := by
  unfold Token.classify
  split
  · exact .inl rfl
  split
  · rename_i suffix
    exact .inr ⟨rfl, by simpa using (Bool.and_eq_true_iff.1 suffix).1⟩
  iterate 3
    split
    · exact .inl rfl
  exact .inl rfl

lemma tokensFrom_identifier (known : name ∈ Vocabulary.identifiers) (apart : Apart below) :
    tokensFrom prior ('$' :: (name ++ below)) = tokensFrom (.identifier name :: prior) below := by
  have read : step prior '$' (name ++ below) = .ok ([.identifier name], below) := by
    rw [step_eq_construct (by decide) (.inl (by decide)) (by decide), construct,
      if_neg (by decide), if_pos rfl, identifier_written known apart]
    rfl
  exact tokensFrom_of_step read

lemma tokensFrom_word (shape : IsWord word) (apart : Apart below) :
    tokensFrom prior ((Token.classify prior word).surface ++ below) =
      tokensFrom (Token.classify prior word :: prior) below := by
  rcases surface_classify prior word with written | ⟨suffix, known⟩
  · obtain ⟨c, text, rfl, read⟩ :=
      step_word prior shape apart.ended fun _ => apart.head_ne (by decide)
    rw [written]
    exact tokensFrom_of_step read
  · rw [suffix]
    exact tokensFrom_identifier known apart

/-! ## Other tokens -/

lemma tokensFrom_operand (shape : Operand token) (apart : Apart below) :
    tokensFrom prior (token.surface ++ below) = tokensFrom (token :: prior) below := by
  rcases operand_written shape apart with
    ⟨text, written, read⟩ | ⟨text, written, read⟩ | ⟨c, text, written, begins, read⟩
  · have taken : step prior '{' (text ++ below) = .ok ([token], below) := by
      rw [step_eq_construct (by decide) (.inl (by decide)) (by decide)]
      simp [construct, beginsNumber, Text.skip, beginsWord, read, one, Except.map]
    rw [written]
    exact tokensFrom_of_step taken
  · have taken : step prior '#' (text ++ below) = .ok ([token], below) := by
      rw [step_eq_construct (by decide) (.inl (by decide)) (by decide)]
      simp [construct, beginsNumber, Text.skip, beginsWord, read, one, Except.map]
    rw [written]
    exact tokensFrom_of_step taken
  · have taken : step prior c (text ++ below) = .ok ([token], below) := by
      rw [step_of_number begins, read]
      rfl
    rw [written]
    exact tokensFrom_of_step taken

/-- `operand_written` for operands and `assigned_word` for words, which are literals after an equals
sign. -/
lemma assigned_written (shape : Assigned token) (apart : Apart below) :
    ∃ c text, token.surface = c :: text ∧ isBlank c = false ∧
      assigned (c :: (text ++ below)) = .ok (token, below) := by
  cases shape with
  | operand shape =>
    rcases operand_written shape apart with
      ⟨text, written, read⟩ | ⟨text, written, read⟩ | ⟨c, text, written, begins, read⟩
    · exact ⟨'{', text, written, by decide, by simp [assigned, read]⟩
    · exact ⟨'#', text, written, by decide, by simp [assigned, read]⟩
    · exact ⟨c, text, written, not_isBlank_of_beginsNumber begins,
        (assigned_of_number begins).trans read⟩
  | @word word shape noUnit =>
    cases word with
    | nil => simpa using shape.begins
    | cons c text =>
      exact ⟨c, text, rfl, not_isBlank_of_isWordPart (shape.parts c List.mem_cons_self),
        assigned_word shape noUnit apart.ended⟩

lemma tokensFrom_assignment {gap : Char} (wide : isGap gap = true) (shape : Assigned token)
    (apart : Apart below) :
    tokensFrom prior ('=' :: gap :: (token.surface ++ below)) =
      tokensFrom (token :: .equals :: prior) below := by
  obtain ⟨c, text, written, solid, read⟩ := assigned_written shape apart
  have taken : step prior '=' (gap :: c :: (text ++ below)) = .ok ([.equals, token], below) := by
    rw [step_equals prior wide solid, read]
    rfl
  rw [written]
  exact tokensFrom_of_step taken

lemma surface_symbol (c : Char) : (symbol c).surface = [c] := by
  unfold symbol
  iterate 4
    split
    · rename_i same
      rw [same]
      rfl
  rfl

lemma tokensFrom_symbol (shape : IsSymbol c) (apart : Apart below) :
    tokensFrom prior (c :: below) = tokensFrom (symbol c :: prior) below := by
  have noNumber : beginsNumber ([c] ++ below) = false := by
    rw [beginsNumber_ended apart.ended]
    by_contra number
    rcases beginsNumber_head (Bool.eq_true_of_not_eq_false number) with digit | rfl | rfl
    · exact Bool.false_ne_true (shape.noDigit.symm.trans digit)
    · exact absurd shape.noWord (by decide)
    · exact number (by decide)
  rw [List.singleton_append] at noNumber
  have taken : step prior c below = .ok ([symbol c], below) := by
    have noMark := shape.noMark
    simp only [List.mem_cons, List.not_mem_nil, or_false, not_or] at noMark
    rw [step_eq_construct shape.solid (.inr (apart.head_ne (by decide)))
      (fun letter => absurd shape.noWord (by rw [letter]; decide))]
    simp [construct, noMark, noNumber, shape.noWord]
  exact tokensFrom_of_step taken

lemma tokensFrom_literal (shape : Literal token) (apart : Apart below) :
    tokensFrom prior (token.surface ++ below) = tokensFrom (token :: prior) below := by
  cases shape with
  | @mediaValue literal solid given plain =>
    have taken : step prior '@' (literal ++ below) = .ok ([.mediaValue literal], below) := by
      rw [step_eq_construct (by decide) (.inl (by decide)) (by decide), construct, if_pos rfl,
        media_written solid given plain apart]
      rfl
    exact tokensFrom_of_step taken
  | @mediaVariableRef name named =>
    have taken : step prior '@' ('{' :: (name ++ '}' :: below)) =
        .ok ([.mediaVariableRef name], below) := by
      rw [step_eq_construct (by decide) (.inl (by decide)) (by decide), construct, if_pos rfl]
      simp [media, bracedName_written named, one, Except.map, bind, Except.bind]
    have written : Token.surface (.mediaVariableRef name) ++ below =
        '@' :: '{' :: (name ++ '}' :: below) := by
      simp [Token.surface]
    rw [written]
    exact tokensFrom_of_step taken
  | identifier known => exact tokensFrom_identifier known apart
  | @pseudoClass name argument known closed =>
    have taken : step prior ':' (name ++ (argument ++ below)) =
        .ok ([.pseudoClass (':' :: name ++ argument)], below) := by
      rw [step_eq_construct (by decide) (.inl (by decide)) (by decide), construct,
        if_neg (by decide), if_neg (by decide), if_pos rfl, pseudoClass_written known closed apart]
      rfl
    have written : Token.surface (.pseudoClass (':' :: name ++ argument)) ++ below =
        ':' :: (name ++ (argument ++ below)) := by
      simp [Token.surface]
    rw [written]
    exact tokensFrom_of_step taken
  | percent => exact tokensFrom_percent prior below
  | operand shape => exact tokensFrom_operand shape apart
  | @symbol c shape =>
    rw [surface_symbol]
    exact tokensFrom_symbol shape apart

lemma markerLine_append {edge : Edge} :
    markerLine name edge [] ++ below = markerLine name edge below := by
  simp [markerLine]

/-! ## Whole sources -/

/-- The surface forms of tokens, each with a tab before it. -/
def spelled (tokens : List Token) : Text := tokens.flatMap fun token => '\t' :: token.surface

lemma apart_spelled (tokens : List Token) : Apart (spelled tokens) := by
  cases tokens with
  | nil => simp [Apart, spelled]
  | cons token tokens =>
    rintro c ⟨⟩
    rfl

lemma tokensFrom_tab : tokensFrom prior ('\t' :: text) = tokensFrom prior text :=
  tokensFrom_gap (by decide)

lemma tokensFrom_spelled_cons {tokens : List Token} :
    tokensFrom prior (spelled (token :: tokens)) =
      tokensFrom prior (token.surface ++ spelled tokens) := by
  rw [spelled, List.flatMap_cons, List.cons_append, tokensFrom_tab]
  rfl

lemma written_cons (token : Token) (tokens : List Token) :
    Token.written (token :: tokens) = token.surface ++ spelled tokens := by
  induction tokens generalizing token with
  | nil => simp [Token.written, Text.join, spelled]
  | cons next tokens ih =>
    have tail : Text.join ['\t'] ((next :: tokens).map Token.surface) =
        next.surface ++ spelled tokens := ih next
    rw [Token.written, Text.join, List.map_cons, List.map_cons, List.intercalate_cons_cons,
      ← List.map_cons]
    change token.surface ++ ['\t'] ++ Text.join ['\t'] ((next :: tokens).map Token.surface) = _
    rw [tail]
    simp [spelled]

lemma tokensFrom_written (tokens : List Token) :
    tokensFrom prior (Token.written tokens) = tokensFrom prior (spelled tokens) := by
  cases tokens with
  | nil => rfl
  | cons token tokens => rw [written_cons, tokensFrom_spelled_cons]

/-- The tab that `Token.written` puts behind a comment would be part of it, if `comment` did not
trim its text. -/
lemma comment_written {blanks : Text} (visibility : Visibility) (oneLine : '\n' ∉ text)
    (trimmed : Text.trim text = text) (gaps : ∀ c ∈ blanks, isGap c = true)
    (ended : ∀ c ∈ rest.head?, (c != '\n') = false) :
    comment (visibility.mark ++ ' ' :: (text ++ (blanks ++ rest))) =
      (.comment visibility text, rest) := by
  have line : ∀ c ∈ ' ' :: (text ++ blanks), (c != '\n') = true := by
    intro c mem
    rcases List.mem_cons.1 mem with rfl | mem
    · decide
    rcases List.mem_append.1 mem with inside | gap
    · exact bne_iff_ne.2 fun same => oneLine (same ▸ inside)
    · exact (Bool.and_eq_true_iff.1 (gaps c gap)).2
  have content : Text.trim (' ' :: (text ++ blanks)) = text := by
    have space : ∀ c ∈ [' '], isBlank c = true := List.forall_mem_singleton.2 (by decide)
    have blank : ∀ c ∈ blanks, isBlank c = true := fun c mem =>
      (Bool.and_eq_true_iff.1 (gaps c mem)).1
    rw [← List.singleton_append, Text.trim_blank_append space, Text.trim_append_blank blank,
      trimmed]
  have whole : ' ' :: (text ++ (blanks ++ rest)) = ' ' :: (text ++ blanks) ++ rest := by simp
  have visible : (if (visibility.mark ++ ' ' :: (text ++ (blanks ++ rest))).head? = some '*'
      then Visibility.shown else .hidden) = visibility := by
    cases visibility <;> rfl
  have body : Text.skip '*' (visibility.mark ++ ' ' :: (text ++ (blanks ++ rest))) =
      ' ' :: (text ++ blanks) ++ rest := by
    rw [← whole]
    cases visibility <;> rfl
  simp only [comment, visible, body, Text.takeWhile_run line ended,
    Text.dropWhile_run line ended, content]

lemma tokensFrom_comment {visibility : Visibility} {tokens : List Token} (oneLine : '\n' ∉ text)
    (trimmed : Text.trim text = text) (ended : tokens = [] ∨ tokens.head? = some .newline) :
    tokensFrom prior (Token.surface (.comment visibility text) ++ spelled tokens) =
      tokensFrom (.comment visibility text :: prior) (spelled tokens) := by
  have taken {blanks rest : Text} (gaps : ∀ c ∈ blanks, isGap c = true)
      (ended : ∀ c ∈ rest.head?, (c != '\n') = false) :
      tokensFrom prior ('/' :: '/' :: (visibility.mark ++ ' ' :: (text ++ (blanks ++ rest)))) =
        tokensFrom (.comment visibility text :: prior) rest := by
    have noGap : isGap '/' = false := by decide
    have step : step prior '/' ('/' :: (visibility.mark ++ ' ' :: (text ++ (blanks ++ rest)))) =
        .ok ([.comment visibility text], rest) := by
      simp [step, noGap, comment_written visibility oneLine trimmed gaps ended, one, Except.map]
    exact tokensFrom_of_step step
  rcases ended with rfl | lineEnd
  · have written : Token.surface (.comment visibility text) ++ spelled [] =
        '/' :: '/' :: (visibility.mark ++ ' ' :: (text ++ ([] ++ []))) := by
      simp [Token.surface, spelled]
    rw [written, taken (by simp) (by simp)]
    rfl
  · obtain ⟨later, rfl⟩ := List.head?_eq_some_iff.1 lineEnd
    have written : Token.surface (.comment visibility text) ++ spelled (.newline :: later) =
        '/' :: '/' :: (visibility.mark ++ ' ' :: (text ++ (['\t'] ++ '\n' :: spelled later))) := by
      simp [Token.surface, spelled, Token.newline]
    have tab : ∀ c ∈ ['\t'], isGap c = true := List.forall_mem_singleton.2 (by decide)
    rw [written, taken tab (by simp), tokensFrom_spelled_cons]
    rfl

lemma tokensFrom_emitted {emitted later : List Token}
    (taken : step prior c text = .ok (emitted, rest))
    (onward : tokensFrom (emitted.reverse ++ prior) rest =
      .ok ((emitted.reverse ++ prior).reverse ++ later)) :
    tokensFrom prior (spelled (emitted ++ later)) =
      tokensFrom (emitted.reverse ++ prior) (spelled later) := by
  rcases step_reads taken with ⟨word, shape, -, everywhere⟩ | ⟨emission, -⟩
  · obtain rfl : emitted = [Token.classify prior word] := by
      simpa [taken] using everywhere prior
    exact tokensFrom_spelled_cons.trans (tokensFrom_word shape (apart_spelled later))
  · cases emission with
    | gap => rfl
    | @comment visibility content rest oneLine trimmed ended =>
      -- The tab after a comment would become part of it, were it not for the line end behind it.
      refine tokensFrom_spelled_cons.trans (tokensFrom_comment oneLine trimmed ?_)
      rcases ended with rfl | lineEnd
      · left
        simpa [tokensFrom] using onward
      · right
        obtain ⟨tail, rfl⟩ := List.head?_eq_some_iff.1 lineEnd
        rw [tokensFrom_newline] at onward
        obtain ⟨new, same⟩ := tokensFrom_extends onward
        obtain rfl : later = .newline :: new := by simpa using same
        rfl
    | newline => exact tokensFrom_spelled_cons.trans tokensFrom_newline
    | layer solid named =>
      rw [List.singleton_append, tokensFrom_spelled_cons, Token.surface, markerLine_append,
        tokensFrom_markerLine solid named]
      rfl
    | literal shape =>
      exact tokensFrom_spelled_cons.trans (tokensFrom_literal shape (apart_spelled later))
    | assignment shape =>
      exact tokensFrom_spelled_cons.trans
        (tokensFrom_assignment (by decide) shape (apart_spelled later))

lemma tokensFrom_spelled {new : List Token}
    (h : tokensFrom prior text = .ok (prior.reverse ++ new)) :
    tokensFrom prior (spelled new) = .ok (prior.reverse ++ new) := by
  fun_induction tokensFrom prior text generalizing new with
  | case1 prior =>
    obtain rfl : new = [] := by simpa using h
    simp [spelled, tokensFrom]
  | case2 => simp at h
  | case3 prior c text emitted rest taken ih =>
    obtain ⟨later, same⟩ := tokensFrom_extends h
    obtain rfl : new = emitted ++ later := by simpa using same
    rw [tokensFrom_emitted taken (same ▸ h), ih (same ▸ h)]
    simp

/-- What is written from the tokens of a source (`Token.written`) has those tokens: each of them has
the shape of its reader (`step_reads`), and a reader takes a text of its shape up to the next tab
(`Apart`). -/
theorem tokens_written {source : Text} {read : List Token} (h : tokens source = .ok read) :
    tokens (Token.written read) = .ok read := by
  have start : tokensFrom [] source = .ok ([].reverse ++ read) := tokensFrom_of_tokens h
  exact tokens_of_tokensFrom ((tokensFrom_written read).trans (tokensFrom_spelled start))

/-- A unit that overrides, a numeral with zeros, a comment with blanks around it, and a marker that
takes no line end along. -/
theorem tokens_written_override :
    let source : Text := "=px {a}007//*  n \nLAYER b END"
    let read : List Token :=
      [.equals, .variableRef "a" (some "px"), .value (.integer 7), .comment .shown "n", .newline,
        .layer "b" .stop]
    Token.written read = "=\t{a}px\t7\t//* n\t\n\tLAYER b END\n".toList ∧
      tokens source = .ok read ∧ tokens (Token.written read) = .ok read := by
  intro source read
  have override : step [] '=' "px {a}007//*  n \nLAYER b END".toList =
      .ok ([.equals, .variableRef "a" (some "px")], "007//*  n \nLAYER b END".toList) := rfl
  have numeral (prior : List Token) : step prior '0' "07//*  n \nLAYER b END".toList =
      .ok ([.value (.integer 7)], "//*  n \nLAYER b END".toList) := rfl
  have comment (prior : List Token) : step prior '/' "/*  n \nLAYER b END".toList =
      .ok ([.comment .shown "n"], "\nLAYER b END".toList) := rfl
  have marker (prior : List Token) : step prior 'L' "AYER b END".toList =
      .ok ([.layer "b" .stop], []) := rfl
  have fine : tokens source = .ok read := tokens_of_tokensFrom <| calc
    _ = _ := tokensFrom_of_step override
    _ = _ := tokensFrom_of_step (numeral _)
    _ = _ := tokensFrom_of_step (comment _)
    _ = _ := tokensFrom_newline
    _ = _ := tokensFrom_of_step (marker _)
    _ = _ := by rw [tokensFrom]; rfl
  exact ⟨by decide, fine, tokens_written fine⟩

end Lexer

end UtilityCss