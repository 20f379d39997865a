import UtilityCss.Proofs.Statement.Composition
import UtilityCss.Proofs.Token.Marker
import UtilityCss.Proofs.Token.Shape
import UtilityCss.Proofs.Token.Unread

/-!
# Sources in parts

Two sources may be joined by a line end.  What the first one cannot read stays where it was; what
the second one cannot read moves down by the lines of the first (`Position.after_line`), because a
step fails in every context or in none.

Tokens are another matter: the class of a bare word depends on the tokens before it, however far
they reach back.  But no rule of `Token.classify` looks behind a keyword (`classify_append`).  So a
source whose lines all open with a keyword, a comment or a layer marker is read alike in every
context (`tokensFrom_opened`): a word at the start of a line is a keyword, which is one everywhere,
and any other word has a keyword before it.  The lines of the joint source are then those of its
parts.
-/

namespace UtilityCss

/-! ## Classes of words -/

namespace Token

variable {prior : List Token} {word : Text}

lemma classify_of_keyword (known : word ∈ Vocabulary.keywords) :
    classify prior word = .keyword word := by
  rw [classify, if_pos known]

lemma statementProperty?_append (found : prior.any isKeyword = true) (older : List Token) :
    statementProperty? (prior ++ older) = statementProperty? prior := by
  have stops : prior.dropWhile isIdentifier ≠ [] := by
    intro all
    obtain ⟨token, mem, keyword⟩ := List.any_eq_true.1 found
    have suffix := List.dropWhile_eq_nil_iff.1 all token mem
    cases token <;> simp [isKeyword, isIdentifier] at keyword suffix
  obtain ⟨token, rest, shape⟩ := List.exists_cons_of_ne_nil stops
  rw [statementProperty?, statementProperty?, List.dropWhile_append, shape]
  cases token <;> rfl

lemma awaitsProperty_append (found : prior.any isKeyword = true) (older : List Token) :
    awaitsProperty (prior ++ older) = awaitsProperty prior := by
  have stops : (prior.takeWhile fun token => !token.isKeyword).length ≠ prior.length := by
    intro all
    have whole : (prior.takeWhile fun token => !token.isKeyword) = prior :=
      (List.takeWhile_prefix _).eq_of_length all
    obtain ⟨token, mem, keyword⟩ := List.any_eq_true.1 found
    rw [← whole] at mem
    have other := List.mem_takeWhile_imp mem
    simp [keyword] at other
  rw [awaitsProperty, awaitsProperty, List.any_append, found, Bool.true_or, List.takeWhile_append,
    if_neg stops]

/-- `classify` looks at the last token, at the property behind suffixes
(`statementProperty?_append`) and at the token after the last keyword (`awaitsProperty_append`);
each of the three stops at a keyword at the latest. -/
theorem classify_append (found : prior.any isKeyword = true) (older : List Token) (word : Text) :
    classify (prior ++ older) word = classify prior word := by
  have given : prior ≠ [] := by
    rintro rfl
    simp at found
  have head : (prior ++ older).head? = prior.head? := List.head?_append_of_ne_nil prior given
  rw [classify, classify, followsKeyword, followsKeyword, head, statementProperty?_append found,
    awaitsProperty_append found]

/-- A token that may open a line: a keyword, a comment or a layer marker. -/
def opensLine : Token → Bool
  | .keyword _ => true
  | .comment _ _ => true
  | .layer _ _ => true
  | _ => false

lemma mem_keywords_of_opensLine (opens : (classify prior word).opensLine = true) :
    word ∈ Vocabulary.keywords := by
  by_contra unknown
  rw [classify, if_neg unknown] at opens
  iterate 4
    split at opens
    · simp [opensLine] at opens
  simp [opensLine] at opens

/-- A token that is part of a line and does not end it. -/
def inline : Token → Bool
  | .symbol .newline _ => false
  | .layer _ _ => false
  | _ => true

lemma inline_of_ne {token : Token} (notNewline : ∀ char, token ≠ .symbol .newline char)
    (notLayer : ∀ name edge, token ≠ .layer name edge) : token.inline = true := by
  unfold inline
  split
  · exact absurd rfl (notNewline _)
  · exact absurd rfl (notLayer _ _)
  · rfl

lemma inline_classify : (classify prior word).inline = true := by
  unfold classify
  iterate 5
    split
    · rfl
  rfl

end Token

/-! ## Lines of tokens -/

namespace Line

variable {current tokens : List Token} {token : Token}

lemma groupFrom_inline (inline : token.inline = true) :
    groupFrom current (token :: tokens) = groupFrom (token :: current) tokens := by
  cases token with
  | symbol kind char => cases kind <;> first | rfl | simp [Token.inline] at inline
  | layer name edge => simp [Token.inline] at inline
  | _ => rfl

/-- Without line ends and markers `groupFrom` flushes once, at the end of the tokens. -/
lemma group_inline (given : tokens ≠ []) (inline : ∀ token ∈ tokens, token.inline = true) :
    group tokens = [tokens] := by
  have gathered (current : List Token) :
      groupFrom current tokens = flush (tokens.reverse ++ current) := by
    clear given
    induction tokens generalizing current with
    | nil => rfl
    | cons token tokens ih =>
      rw [groupFrom_inline (inline token List.mem_cons_self),
        ih fun other mem => inline other (List.mem_cons_of_mem token mem)]
      simp
  have whole : tokens.reverse ++ [] ≠ [] := by simpa using given
  rw [group, gathered, flush, if_neg whole, List.append_nil, List.reverse_reverse]

/-- What is gathered is flushed as the beginning of a line, whatever token ends it; so the first
token of a line is known as soon as it is read. -/
lemma groupFrom_begins (given : current ≠ []) (tokens : List Token) :
    ∃ more lines, groupFrom current tokens = (current.reverse ++ more) :: lines := by
  have flushed {current : List Token} (given : current ≠ []) : flush current = [current.reverse] :=
    if_neg given
  fun_induction groupFrom current tokens with
  | case1 current => exact ⟨[], [], by rw [flushed given, List.append_nil]⟩
  | case2 current char tokens ih => exact ⟨[], _, by rw [flushed given, List.append_nil]; rfl⟩
  | case3 current name edge tokens ih => exact ⟨[], _, by rw [flushed given, List.append_nil]; rfl⟩
  | case4 current token tokens notNewline notLayer ih =>
    obtain ⟨more, lines, same⟩ := ih (List.cons_ne_nil token current)
    exact ⟨token :: more, lines, by simpa using same⟩

/-- Every line opens with a keyword, a comment or a layer marker. -/
def Opened (lines : List (List Token)) : Prop :=
  ∀ line ∈ lines, line.head?.any Token.opensLine = true

/-- `groupFrom_begins` with one token gathered. -/
lemma opensLine_of_opened (inline : token.inline = true)
    (opened : Opened (groupFrom [] (token :: tokens))) : token.opensLine = true := by
  obtain ⟨more, lines, shape⟩ := groupFrom_begins (List.cons_ne_nil token []) tokens
  rw [groupFrom_inline inline, shape] at opened
  simpa using opened _ List.mem_cons_self

end Line

/-! ## Positions -/

namespace Position

/-- The position a number of lines further down. -/
def down (lines : Nat) (position : Position) : Position := ⟨position.line + lines, position.column⟩

lemma foldl_advance_down (text : Text) (lines : Nat) (position : Position) :
    text.foldl advance (position.down lines) = (text.foldl advance position).down lines := by
  induction text generalizing position with
  | nil => rfl
  | cons c text ih =>
    have step : (position.down lines).advance c = (position.advance c).down lines := by
      unfold advance
      split
      · simp only [down, Position.mk.injEq, and_true]
        omega
      · rfl
    rw [List.foldl_cons, List.foldl_cons, step, ih]

lemma line_foldl_advance (text : Text) (position : Position) :
    (text.foldl advance position).line = position.line + text.count '\n' := by
  induction text generalizing position with
  | nil => rfl
  | cons c text ih =>
    rw [List.foldl_cons, ih, advance, List.count_cons]
    split
    · rename_i lineEnd
      simp only [lineEnd, beq_self_eq_true, if_true]
      omega
    · rename_i other
      simp [other]

/-- The column starts anew behind a line end, so that only the line depends on the first text
(`foldl_advance_down`). -/
theorem after_line (first second : Text) :
    after (first ++ '\n' :: second) = (after second).down (1 + first.count '\n') := by
  have reached : (after first).advance '\n' = start.down (1 + first.count '\n') := by
    simp only [advance, if_true, down, start, after, line_foldl_advance, Position.mk.injEq,
      and_true]
    omega
  rw [after, List.foldl_append, List.foldl_cons]
  change second.foldl advance ((after first).advance '\n') = _
  rw [reached, foldl_advance_down, after]

end Position

/-! ## Reading in a context -/

namespace Lexer

variable {prior recent new current emitted later read below : List Token} {token : Token} {c : Char}
  {text rest first second : Text} {stop : Stop} {e : LexError}

/-- Which tokens were read matters for the class of words only, and no word is refused
(`step_error_context`); so the two readings go on side by side (`step_context`). -/
lemma tokensFrom_error_context (h : tokensFrom prior text = .error stop) (other : List Token) :
    tokensFrom other text = .error stop := by
  fun_induction tokensFrom prior text generalizing other with
  | case1 => simp at h
  | case2 prior c text found failed =>
    obtain rfl := Except.error.inj h
    exact tokensFrom_of_step_error (step_error_context failed other)
  | case3 prior c text emitted rest taken ih =>
    obtain ⟨emitted', taken', -⟩ := step_context taken other
    rw [tokensFrom_of_step taken']
    exact ih h _

lemma Operand.within (shape : Operand token) :
    token.inline = true ∧ token.opensLine = false := by
  cases shape <;> exact ⟨rfl, rfl⟩

lemma Assigned.inline (shape : Assigned token) : token.inline = true := by
  cases shape with
  | operand shape => exact shape.within.1
  | word => rfl

lemma Literal.within (shape : Literal token) :
    token.inline = true ∧ token.opensLine = false := by
  cases shape with
  | operand shape => exact shape.within
  | symbol =>
    unfold Lexer.symbol
    iterate 4
      split
      · exact ⟨rfl, rfl⟩
    exact ⟨rfl, rfl⟩
  | _ => exact ⟨rfl, rfl⟩

/-- A word that follows does not look behind what was read: a keyword has been read, or the current
line has no tokens yet, or no word follows on it. -/
def Led (recent current : List Token) (text : Text) : Prop :=
  recent.any Token.isKeyword = true ∨ current = [] ∨ text = [] ∨ text.head? = some '\n'

/-- Such a token cannot be the first on its line (`Line.opensLine_of_opened`), so `Led` leaves only
that a keyword has been read. -/
lemma Led.keyword (led : Led recent current (c :: text))
    (taken : step recent c text = .ok (token :: emitted, rest))
    (within : token.inline = true ∧ token.opensLine = false)
    (opened : Line.Opened (Line.groupFrom current (token :: later))) :
    recent.any Token.isKeyword = true := by
  obtain ⟨inline, noStart⟩ := within
  rcases led with keyword | rfl | empty | lineEnd
  · exact keyword
  · have opens := Line.opensLine_of_opened inline opened
    exact absurd opens (by simp [noStart])
  · simp at empty
  · obtain rfl : c = '\n' := by simpa using lineEnd
    obtain ⟨⟨rfl, -⟩, -⟩ : (Token.newline = token ∧ emitted = []) ∧ text = rest := by
      simpa [step, isGap] using taken
    simp [Token.inline, Token.newline] at inline

lemma step_opened_word {word : Text} (begins : BeginsBareWord c text)
    (opened : Line.Opened (Line.groupFrom current (Token.classify recent word :: later)))
    (led : Led recent current (c :: text)) :
    recent.any Token.isKeyword = true ∨ word ∈ Vocabulary.keywords := by
  rcases led with keyword | rfl | empty | lineEnd
  · exact .inl keyword
  · have opens := Line.opensLine_of_opened Token.inline_classify opened
    exact .inr (Token.mem_keywords_of_opensLine opens)
  · simp at empty
  · obtain rfl : c = '\n' := by simpa using lineEnd
    exact absurd begins.begins (by decide)

/-- The step of `tokensFrom_opened`.  A word that opens a line is a keyword, which is one in every
context, and any other has a keyword before it (`step_opened_word`), so that `Token.classify_append`
applies. -/
lemma step_opened (taken : step recent c text = .ok (emitted, rest))
    (opened : Line.Opened (Line.groupFrom current (emitted ++ later)))
    (led : Led recent current (c :: text)) :
    (∀ older, step (recent ++ older) c text = .ok (emitted, rest)) ∧
      ∃ current', Line.Opened (Line.groupFrom current' later) ∧
        Led (emitted.reverse ++ recent) current' rest := by
  rcases step_reads taken with ⟨word, -, begins, everywhere⟩ | ⟨emission, everywhere⟩
  · -- A word: it is a keyword, or it has one before it; either way its class is settled, and the
    -- rest of the text has a keyword before it.
    obtain rfl : emitted = [Token.classify recent word] := by
      simpa [taken] using everywhere recent
    refine ⟨fun older => ?_, Token.classify recent word :: current, ?_, .inl ?_⟩
    · rw [everywhere]
      rcases step_opened_word begins opened led with keyword | known
      · rw [Token.classify_append keyword]
      · rw [Token.classify_of_keyword known, Token.classify_of_keyword known]
    · rwa [List.singleton_append, Line.groupFrom_inline Token.inline_classify] at opened
    · rcases step_opened_word begins opened led with keyword | known
      · simp [keyword]
      · simp [Token.classify_of_keyword known, Token.isKeyword]
  · refine ⟨fun older => everywhere _, ?_⟩
    cases emission with
    | gap =>
      refine ⟨current, opened, ?_⟩
      rcases led with keyword | fresh | empty | lineEnd
      · exact .inl keyword
      · exact .inr (.inl fresh)
      · simp at empty
      · obtain rfl : c = '\n' := by simpa using lineEnd
        simp [step, isGap] at taken
    | @comment visibility content rest oneLine trimmed ended =>
      -- A line may open with a comment, which leads no word: its line ends with it.
      refine ⟨.comment visibility content :: current, ?_, .inr (.inr ended)⟩
      rwa [List.singleton_append, Line.groupFrom_inline rfl] at opened
    | newline =>
      exact ⟨[], fun line mem => opened line (List.mem_append_right _ mem), .inr (.inl rfl)⟩
    | layer solid named =>
      exact ⟨[], fun line mem => opened line (List.mem_append_right _ (List.mem_cons_of_mem _ mem)),
        .inr (.inl rfl)⟩
    | @literal token rest shape =>
      have keyword := led.keyword taken shape.within opened
      refine ⟨token :: current, ?_, .inl (by simp [keyword])⟩
      rwa [List.singleton_append, Line.groupFrom_inline shape.within.1] at opened
    | @assignment value rest shape =>
      have keyword := led.keyword taken ⟨rfl, rfl⟩ opened
      refine ⟨value :: .equals :: current, ?_, .inl (by simp [keyword])⟩
      rwa [List.cons_append, Line.groupFrom_inline rfl, List.singleton_append,
        Line.groupFrom_inline shape.inline] at opened

/-- Induction on the reading, with `Led` as the invariant (`step_opened`). -/
theorem tokensFrom_opened (h : tokensFrom recent text = .ok (recent.reverse ++ new))
    (opened : Line.Opened (Line.groupFrom current new)) (led : Led recent current text)
    (older : List Token) :
    tokensFrom (recent ++ older) text = .ok ((recent ++ older).reverse ++ new) := by
  -- `current` is the line that is being gathered; it need not be read off `recent`, because `Led`
  -- only asks whether it is empty.
  fun_induction tokensFrom recent text generalizing new current with
  | case1 recent =>
    obtain rfl : new = [] := by simpa using h
    simp [tokensFrom]
  | case2 => simp at h
  | case3 recent c text emitted rest taken ih =>
    obtain ⟨later, same⟩ := tokensFrom_extends h
    obtain rfl : new = emitted ++ later := by simpa using same
    obtain ⟨everywhere, current', opened', led'⟩ := step_opened taken opened led
    rw [tokensFrom_of_step (everywhere older), ← List.append_assoc, ih (same ▸ h) opened' led']
    simp

/-! ## Two sources -/

lemma tokens_eq_error {source : Text} (h : tokens source = .error e) :
    ∃ stop, tokensFrom [] source = .error stop ∧
      e = ⟨stop.fault, Position.after (source.take (source.length - stop.rest.length))⟩ := by
  unfold tokens at h
  split at h
  · rename_i stop found
    exact ⟨stop, found, (Except.error.inj h).symm⟩
  · simp at h

lemma tokens_of_tokensFrom_error {source : Text} (h : tokensFrom [] source = .error stop) :
    tokens source =
      .error ⟨stop.fault, Position.after (source.take (source.length - stop.rest.length))⟩ := by
  rw [tokens, h]

lemma tokens_line_of_error (failed : tokens first = .error e) (second : Text) :
    tokens (first ++ '\n' :: second) = .error e := by
  obtain ⟨stop, stopped, rfl⟩ := tokens_eq_error failed
  have length : (first ++ '\n' :: second).length - (stop.rest ++ '\n' :: second).length =
      first.length - stop.rest.length := by
    simp only [List.length_append]
    omega
  rw [tokens_of_tokensFrom_error (tokensFrom_line_of_error stopped), length,
    List.take_append_of_le_length (Nat.sub_le _ _)]

/-- The two cases of `tokensFrom_line` as one, for faults, which do not depend on the tokens before
the text (`tokensFrom_error_context`). -/
lemma tokensFrom_line_of_tokens (fine : tokens first = .ok read) (second : Text) :
    ∃ prior, tokensFrom [] (first ++ '\n' :: second) = tokensFrom prior second := by
  have start : tokensFrom [] first = .ok ([].reverse ++ read) := tokensFrom_of_tokens fine
  rcases tokensFrom_line start with joint | ⟨-, joint⟩
  · exact ⟨_, joint second⟩
  · exact ⟨_, joint second⟩

lemma tokens_line_of_ok_of_error (fine : tokens first = .ok read)
    (failed : tokens second = .error e) :
    tokens (first ++ '\n' :: second) =
      .error ⟨e.fault, e.position.down (1 + first.count '\n')⟩ := by
  obtain ⟨stop, stopped, rfl⟩ := tokens_eq_error failed
  obtain ⟨prior, joint⟩ := tokensFrom_line_of_tokens fine second
  have short : stop.rest.length ≤ second.length := (tokensFrom_error_suffix stopped).length_le
  have length : (first ++ '\n' :: second).length - stop.rest.length =
      first.length + (second.length - stop.rest.length + 1) := by
    simp only [List.length_append, List.length_cons]
    omega
  rw [tokens_of_tokensFrom_error (joint.trans (tokensFrom_error_context stopped prior)), length,
    List.take_length_add_append, List.take_succ_cons, Position.after_line]

lemma group_tokens_line (fine : tokens first = .ok read) (fine' : tokens second = .ok below)
    (opened : Line.Opened (Line.group below)) :
    ∃ joint, tokens (first ++ '\n' :: second) = .ok joint ∧
      Line.group joint = Line.group read ++ Line.group below := by
  have start : tokensFrom [] first = .ok ([].reverse ++ read) := tokensFrom_of_tokens fine
  have alone : tokensFrom [] second = .ok ([].reverse ++ below) := tokensFrom_of_tokens fine'
  have anywhere (prior : List Token) : tokensFrom prior second = .ok (prior.reverse ++ below) :=
    tokensFrom_opened alone opened (.inr (.inl rfl)) prior
  rcases tokensFrom_line start with joint | ⟨⟨before, name, edge, rfl⟩, joint⟩
  · refine ⟨read ++ .newline :: below, tokens_of_tokensFrom ?_, Line.group_append_newline _ _⟩
    rw [joint, anywhere]
    simp
  · refine ⟨before ++ .layer name edge :: below, tokens_of_tokensFrom ?_, ?_⟩
    · rw [joint, anywhere]
      simp
    · rw [Line.group_append_layer, Line.group_append_layer, List.append_assoc]
      rfl

/-- Sources joined by a line end.  The fault of the first one stays where it is, that of the second
one moves down by the lines of the first (`Position.after_line`); and if both can be read and the
lines of the second open with a keyword, a comment or a layer marker (`Token.opensLine`), the lines
of the joint source are theirs. -/
theorem tokens_line (first second : Text) :
    (∀ e, tokens first = .error e → tokens (first ++ '\n' :: second) = .error e) ∧
      (∀ read e, tokens first = .ok read → tokens second = .error e →
        tokens (first ++ '\n' :: second) =
          .error ⟨e.fault, ⟨e.position.line + 1 + first.count '\n', e.position.column⟩⟩) ∧
      ∀ read below, tokens first = .ok read → tokens second = .ok below →
        (∀ line ∈ Line.group below, line.head?.any Token.opensLine = true) →
        ∃ joint, tokens (first ++ '\n' :: second) = .ok joint ∧
          Line.group joint = Line.group read ++ Line.group below := by
  refine ⟨fun e failed => ?_, fun read e fine failed => ?_, fun read below fine fine' opened => ?_⟩
  · exact tokens_line_of_error failed second
  · rw [tokens_line_of_ok_of_error fine failed, Position.down, Nat.add_assoc]
  · exact group_tokens_line fine fine' opened

set_option maxRecDepth 1000 in
/-- A suffix that is unknown, a value that is missing, and a line that opens as it should, below a
layer marker that takes the line end along. -/
theorem tokens_line_marker :
    let unknown : Text := "$q"
    let marker : Text := "\nLAYER a END"
    let missing : Text := "="
    let statement : Text := "ADD animation $left"
    let statementTokens : List Token :=
      [.keyword "ADD", .property "animation", .identifier "left"]
    (tokens unknown = .error ⟨.unknownIdentifier "q", ⟨1, 3⟩⟩ ∧
      tokens (unknown ++ '\n' :: statement) = .error ⟨.unknownIdentifier "q", ⟨1, 3⟩⟩) ∧
    (tokens marker = .ok [.newline, .layer "a" .stop] ∧
      tokens missing = .error ⟨.missingValue, ⟨1, 2⟩⟩ ∧
      tokens (marker ++ '\n' :: missing) = .error ⟨.missingValue, ⟨3, 2⟩⟩) ∧
    (tokens statement = .ok statementTokens ∧
      (∀ line ∈ Line.group statementTokens, line.head?.any Token.opensLine = true) ∧
      ∃ joint, tokens (marker ++ '\n' :: statement) = .ok joint ∧
        Line.group joint =
          Line.group [.newline, .layer "a" .stop] ++ Line.group statementTokens) := by
  intro unknown marker missing statement statementTokens
  have noSuffix : tokens unknown = .error ⟨.unknownIdentifier "q", ⟨1, 3⟩⟩ := by
    have failed : step [] '$' ['q'] = .error ⟨.unknownIdentifier ['q'], []⟩ := rfl
    exact tokens_of_tokensFrom_error (tokensFrom_of_step_error failed)
  have noValue : tokens missing = .error ⟨.missingValue, ⟨1, 2⟩⟩ := by
    have failed : step [] '=' [] = .error ⟨.missingValue, []⟩ := rfl
    exact tokens_of_tokensFrom_error (tokensFrom_of_step_error failed)
  have layered : tokens marker = .ok [.newline, .layer "a" .stop] := by
    have taken : step [.newline] 'L' "AYER a END".toList = .ok ([.layer "a" .stop], []) := rfl
    exact tokens_of_tokensFrom <| calc
      _ = _ := tokensFrom_newline
      _ = _ := tokensFrom_of_step taken
      _ = _ := by rw [tokensFrom]; rfl
  have read : tokens statement = .ok statementTokens := by
    have gap (prior : List Token) (rest : Text) : step prior ' ' rest = .ok ([], rest) := rfl
    have keyword : step [] 'A' "DD animation $left".toList =
        .ok ([.keyword "ADD"], " animation $left".toList) := rfl
    have property : step [.keyword "ADD"] 'a' "nimation $left".toList =
        .ok ([.property "animation"], " $left".toList) := rfl
    have suffix : step [.property "animation", .keyword "ADD"] '$' "left".toList =
        .ok ([.identifier "left"], []) := rfl
    exact tokens_of_tokensFrom <| calc
      _ = _ := tokensFrom_of_step keyword
      _ = _ := tokensFrom_of_step (gap _ _)
      _ = _ := tokensFrom_of_step property
      _ = _ := tokensFrom_of_step (gap _ _)
      _ = _ := tokensFrom_of_step suffix
      _ = _ := by rw [tokensFrom]; rfl
  have opened : ∀ line ∈ Line.group statementTokens, line.head?.any Token.opensLine = true := by
    decide
  exact ⟨⟨noSuffix, (tokens_line unknown statement).1 _ noSuffix⟩,
    ⟨layered, noValue, (tokens_line marker missing).2.1 _ _ layered noValue⟩,
    read, opened, (tokens_line marker statement).2.2 _ _ layered read opened⟩

end Lexer

end UtilityCss
