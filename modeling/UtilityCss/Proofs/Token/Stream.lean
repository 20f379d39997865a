import UtilityCss.Proofs.Statement.Alphabet

/-!
# The shape of a token stream

Statements take much for granted about their tokens: that a value stands behind every equals sign,
that a comment ends its line, that the names of keywords, properties and suffixes are known.  They
may, because the lexer gives no other streams (`Lexer.tokens_stream`), not even for the malformed
sources that it does not refuse.

Two things are shown of a step and carried through a whole reading.  Each token is as it should be
on its own (`Token.Formed`, `Token.texts`), which is read off the shape of what a step emits.  And
each token has the right one behind it (`Token.Precedes`).  The second concerns two steps only where
a comment was read: it leaves nothing of its line unread, so the next token is that of the line end.
-/

namespace UtilityCss

/-! ## Parentheses -/

namespace Text

/-- A text that begins with a parenthesis, and whose parentheses are balanced at its last character
for the first time. -/
structure Parenthesised (text : Text) : Prop where
  opens : text.head? = some '('
  balanced : text.count '(' = text.count ')'
  first : ∀ before, before <+: text → before ≠ [] → before.count '(' = before.count ')' →
    before = text

end Text

namespace Lexer

/-- Induction along `argument`, where `opened` is the counter: the parenthesis that closes one too
many is the last character, so that no other beginning has it. -/
lemma count_of_argument {opened : Nat} {text inner rest : Text}
    (h : argument opened text = .ok (inner, rest)) :
    inner.count ')' = inner.count '(' + opened + 1 ∧
      ∀ before, before <+: inner → before ≠ inner →
        before.count ')' ≤ before.count '(' + opened := by
  induction text generalizing opened inner with
  | nil => simp [argument] at h
  | cons c text ih =>
    simp only [argument] at h
    split at h
    · simp at h
    split at h
    · rename_i closes
      obtain ⟨rfl, rfl⟩ := closes
      obtain ⟨rfl, rfl⟩ := Prod.mk.inj (Except.ok.inj h)
      refine ⟨by decide, fun before front other => ?_⟩
      cases before with
      | nil => simp
      | cons d before => simp_all
    rename_i goesOn
    split at h
    · simp at h
    rename_i tail left found
    obtain ⟨rfl, rfl⟩ := Prod.mk.inj (Except.ok.inj h)
    obtain ⟨total, early⟩ := ih found
    have passed : (if c = ')' then 1 else 0) +
        (if c = '(' then opened + 1 else if c = ')' then opened - 1 else opened) =
          opened + (if c = '(' then 1 else 0) := by
      by_cases closes : c = ')'
      · have inside : opened ≠ 0 := fun none => goesOn ⟨closes, none⟩
        simp only [closes, if_true, Char.reduceEq, if_false]
        omega
      · simp only [closes, if_false]
        split <;> omega
    have counted (part : Text) (d : Char) :
        (c :: part).count d = part.count d + if c = d then 1 else 0 := by
      simp [List.count_cons]
    refine ⟨?_, fun before front other => ?_⟩
    · rw [counted, counted]
      omega
    · cases before with
      | nil => simp
      | cons d before =>
        obtain ⟨rfl, shorter⟩ := List.cons_prefix_cons.1 front
        have bound := early before shorter fun same => other (by rw [same])
        rw [counted, counted]
        omega

/-- `count_of_argument` with nothing open; the parenthesis in front of `inner` makes up for the one
that it closes too many. -/
lemma IsArgument.parenthesised {text : Text} (shape : IsArgument text) (given : text ≠ []) :
    text.Parenthesised := by
  rcases shape with none | ⟨inner, rfl, read⟩
  · exact absurd none given
  obtain ⟨total, early⟩ := count_of_argument read
  refine ⟨rfl, by simp [total], fun before front started same => ?_⟩
  obtain ⟨c, before, rfl⟩ := List.exists_cons_of_ne_nil started
  obtain ⟨rfl, shorter⟩ := List.cons_prefix_cons.1 front
  by_contra other
  have bound := early before shorter fun all => other (by rw [all])
  simp at same
  omega

end Lexer

/-! ## Streams -/

namespace Token

/-- The texts that a token carries. -/
def texts : Token → List Text
  | .keyword name => [name]
  | .property name => [name]
  | .identifier name => [name]
  | .value literal => [literal.toText]
  | .valueType unit => [unit]
  | .variable name => [name]
  | .variableRef name unit => name :: unit.toList
  | .mediaValue literal => [literal]
  | .mediaVariableRef name => [name]
  | .pseudoClass name => [name]
  | .comment _ text => [text]
  | .layer name _ => [name]
  | .symbol _ char => [char]

/-- What is asked of a token on its own.  Names are known ones; a pseudo-class has a colon, a known
name and perhaps an argument; a character without meaning is one character. -/
def Formed : Token → Prop
  | .keyword name => name ∈ Vocabulary.keywords
  | .property name => name ∈ Vocabulary.properties
  | .identifier name => name ∈ Vocabulary.identifiers
  | .valueType unit => unit = "%".toList
  | .variableRef _ unit => ∀ u ∈ unit, u ∈ Vocabulary.units
  | .pseudoClass text => ∃ name ∈ Vocabulary.pseudoClasses, ∃ argument : Text,
      text = ':' :: name ++ argument ∧ (argument = [] ∨ argument.Parenthesised)
  | .layer name _ => name ≠ [] ∧ ∀ c ∈ name, isBlank c = false
  | .symbol .unknown char => ∃ c, char = [c] ∧ isBlank c = false
  | .symbol .leftBrace _ => False
  | _ => True

/-- What a token asks of the one behind it: after an equals sign there is one, a value or a
reference, and after a comment there is none but a line end. -/
def Precedes : Token → Option Token → Prop
  | .symbol .equals _, following =>
    ∃ next, following = some next ∧ (next.kind = .value ∨ next.kind = .variableRef)
  | .comment _ _, following => ∀ next, following = some next → next.kind = .symbol .newline
  | _, _ => True

/-- A token that is right on its own. -/
structure Sound (token : Token) : Prop where
  formed : token.Formed
  oneLine : ∀ text ∈ token.texts, '\n' ∉ text

/-- A stream of tokens as it is read from a source. -/
structure Stream (tokens : List Token) : Prop where
  sound : ∀ token ∈ tokens, token.Sound
  ordered : ∀ before token after, tokens = before ++ token :: after → token.Precedes after.head?

/-- Every token of a list has the right one behind it. -/
def Linked : List Token → Prop
  | [] => True
  | token :: tokens => token.Precedes tokens.head? ∧ Linked tokens

lemma precedes_of_linked {before after tokens : List Token} {token : Token}
    (linked : Linked tokens) (split : tokens = before ++ token :: after) :
    token.Precedes after.head? := by
  subst split
  induction before with
  | nil => exact linked.1
  | cons first before ih => exact ih linked.2

/-- So a token that may stand last is no equals sign, which is how `head_ne_equals_of_step` sees
that none is left waiting. -/
lemma ne_equals_of_precedes {token : Token} (last : token.Precedes none) : token ≠ .equals := by
  rintro rfl
  obtain ⟨next, absent, -⟩ := last
  simp at absent

lemma precedes_of_kind {token : Token} (noEquals : token.kind ≠ .symbol .equals)
    (noComment : token.kind ≠ .comment) (following : Option Token) : token.Precedes following := by
  cases token with
  | symbol kind char =>
    cases kind with
    | equals => exact absurd rfl noEquals
    | _ => trivial
  | comment => exact absurd rfl noComment
  | _ => trivial

end Token

namespace Lexer

variable {prior new emitted : List Token} {token : Token} {text rest word : Text} {c : Char}

/-! ### One token -/

/-- `ne_of_class` for a whole text; that a class does not hold of the line end is decided. -/
lemma newline_not_mem {q : Char → Bool} (inside : ∀ c ∈ text, q c = true)
    (outside : q '\n' = false) : '\n' ∉ text := fun mem =>
  ne_of_class (inside _ mem) outside rfl

lemma newline_not_mem_of_solid (solid : ∀ c ∈ text, isBlank c = false) : '\n' ∉ text := fun mem =>
  ne_of_class (by decide : isBlank '\n' = true) (solid _ mem) rfl

/-- Any other character may stand in an argument, so that there is no class for `newline_not_mem`;
but `argument` refuses a line end where it meets one. -/
lemma newline_not_mem_of_argument {opened : Nat} {inner : Text}
    (h : argument opened text = .ok (inner, rest)) : '\n' ∉ inner := by
  induction text generalizing opened inner with
  | nil => simp [argument] at h
  | cons c text ih =>
    simp only [argument] at h
    split at h
    · simp at h
    rename_i sameLine
    split at h
    · obtain ⟨rfl, rfl⟩ := Prod.mk.inj (Except.ok.inj h)
      simpa using Ne.symm sameLine
    split at h
    · simp at h
    · rename_i tail left found
      obtain ⟨rfl, rfl⟩ := Prod.mk.inj (Except.ok.inj h)
      simpa using ⟨Ne.symm sameLine, ih found⟩

lemma IsArgument.oneLine (shape : IsArgument text) : '\n' ∉ text := by
  rcases shape with rfl | ⟨inner, rfl, read⟩
  · simp
  · simpa using newline_not_mem_of_argument read

lemma Operand.sound (shape : Operand token) : token.Sound := by
  have plain := shape.plain
  cases shape with
  | @reference name unit named known =>
    refine ⟨known, List.forall_mem_cons.2 ⟨named.oneLine, fun u given => ?_⟩⟩
    exact newline_not_mem (plain u (by simpa using given)) rfl
  | color | integer | measure =>
    exact ⟨trivial, List.forall_mem_singleton.2 (newline_not_mem plain rfl)⟩

lemma Operand.kind (shape : Operand token) :
    token.kind = .value ∨ token.kind = .variableRef := by
  cases shape with
  | reference => exact .inr rfl
  | color | integer | measure => exact .inl rfl

lemma Assigned.sound (shape : Assigned token) : token.Sound := by
  cases shape with
  | operand shape => exact shape.sound
  | word shape =>
    exact ⟨trivial, List.forall_mem_singleton.2 (newline_not_mem shape.parts rfl)⟩

lemma Assigned.kind (shape : Assigned token) :
    token.kind = .value ∨ token.kind = .variableRef := by
  cases shape with
  | operand shape => exact shape.kind
  | word => exact .inl rfl

/-- By kind (`Token.precedes_of_kind`): only equals signs and comments ask for something behind
them. -/
lemma Assigned.precedes (shape : Assigned token) (following : Option Token) :
    token.Precedes following := by
  refine Token.precedes_of_kind ?_ ?_ following
  all_goals rcases shape.kind with kind | kind <;> simp [kind]

lemma IsSymbol.sound (shape : IsSymbol c) : (symbol c).Sound := by
  have single : ∀ text ∈ [[c]], '\n' ∉ text :=
    List.forall_mem_singleton.2 (newline_not_mem_of_solid (List.forall_mem_singleton.2 shape.solid))
  unfold symbol
  iterate 4
    split
    · exact ⟨trivial, by simp [Token.texts]⟩
  exact ⟨⟨c, rfl, shape.solid⟩, single⟩

lemma Literal.sound (shape : Literal token) : token.Sound := by
  cases shape with
  | mediaValue solid =>
    exact ⟨trivial, List.forall_mem_singleton.2 (newline_not_mem_of_solid solid)⟩
  | mediaVariableRef named => exact ⟨trivial, List.forall_mem_singleton.2 named.oneLine⟩
  | @identifier name known =>
    refine ⟨known, List.forall_mem_singleton.2 ?_⟩
    exact newline_not_mem (isNameCharacter_of_mem_identifiers known) rfl
  | @pseudoClass name argument known closed =>
    refine ⟨⟨name, known, argument, rfl, ?_⟩, List.forall_mem_singleton.2 ?_⟩
    · by_cases given : argument = []
      · exact .inl given
      · exact .inr (closed.parenthesised given)
    · have named := newline_not_mem (isNameCharacter_of_mem_pseudoClasses known) rfl
      simpa using ⟨named, closed.oneLine⟩
  | percent => exact ⟨rfl, by decide⟩
  | operand shape => exact shape.sound
  | symbol shape => exact shape.sound

/-- `symbol` never gives an equals sign, which `construct` reads together with its value. -/
lemma Literal.precedes (shape : Literal token) (following : Option Token) :
    token.Precedes following := by
  cases shape with
  | operand shape => exact (Assigned.operand shape).precedes following
  | @symbol c shape =>
    refine Token.precedes_of_kind ?_ ?_ following <;>
    · unfold Lexer.symbol
      repeat' split
      all_goals simp [Token.kind]
  | _ => trivial

lemma sound_classify (shape : IsWord word) (prior : List Token) :
    (Token.classify prior word).Sound := by
  have one : ∀ text ∈ [word], '\n' ∉ text :=
    List.forall_mem_singleton.2 (newline_not_mem shape.parts rfl)
  unfold Token.classify
  split
  · rename_i known
    exact ⟨known, one⟩
  split
  · rename_i known
    have known := (Bool.and_eq_true_iff.1 known).1
    exact ⟨of_decide_eq_true (p := word ∈ Vocabulary.identifiers) known, one⟩
  split
  · exact ⟨trivial, one⟩
  split
  · exact ⟨trivial, one⟩
  split
  · rename_i known
    have known := (Bool.and_eq_true_iff.1 known).1
    exact ⟨of_decide_eq_true (p := word ∈ Vocabulary.properties) known, one⟩
  · exact ⟨trivial, one⟩

lemma precedes_classify (prior : List Token) (word : Text) (following : Option Token) :
    (Token.classify prior word).Precedes following := by
  refine Token.precedes_of_kind ?_ ?_ following <;>
  · unfold Token.classify
    repeat' split
    all_goals simp [Token.kind]

/-! ### A reading -/

/-- `Emission.assignment` gives the equals sign and its value in one step, so that no equals sign is
last between two steps. -/
lemma head_ne_equals_of_step (noEquals : prior.head? ≠ some .equals)
    (taken : step prior c text = .ok (emitted, rest)) :
    (emitted.reverse ++ prior).head? ≠ some .equals := by
  have other {token : Token} {older : List Token} (last : token.Precedes none) :
      (token :: older).head? ≠ some .equals := by
    simpa using Token.ne_equals_of_precedes last
  rcases step_reads taken with ⟨word, -, -, same⟩ | ⟨emission, -⟩
  · obtain ⟨rfl, -⟩ := Prod.mk.inj (Except.ok.inj ((same prior).symm.trans taken))
    exact other (precedes_classify prior word none)
  · cases emission with
    | gap => exact noEquals
    | comment | newline | layer => simp [Token.equals, Token.newline]
    | literal shape => exact other (shape.precedes none)
    | assignment shape => exact other (shape.precedes none)

lemma Emission.sound (emission : Emission emitted rest) : ∀ token ∈ emitted, token.Sound := by
  cases emission with
  | gap => simp
  | comment oneLine =>
    exact List.forall_mem_singleton.2 ⟨trivial, List.forall_mem_singleton.2 oneLine⟩
  | newline => exact List.forall_mem_singleton.2 ⟨trivial, by decide⟩
  | layer solid named =>
    exact List.forall_mem_singleton.2
      ⟨⟨named, solid⟩, List.forall_mem_singleton.2 (newline_not_mem_of_solid solid)⟩
  | literal shape => exact List.forall_mem_singleton.2 shape.sound
  | assignment shape =>
    exact List.forall_mem_cons.2 ⟨⟨trivial, by decide⟩, List.forall_mem_singleton.2 shape.sound⟩

lemma sound_of_step (taken : step prior c text = .ok (emitted, rest)) :
    ∀ token ∈ emitted, token.Sound := by
  rcases step_reads taken with ⟨word, shape, -, same⟩ | ⟨emission, -⟩
  · obtain ⟨rfl, -⟩ := Prod.mk.inj (Except.ok.inj ((same prior).symm.trans taken))
    exact List.forall_mem_singleton.2 (sound_classify shape prior)
  · exact emission.sound

/-- What `Emission.comment` leaves unread is empty or begins with a line end, and then the next step
gives its token (`tokensFrom_newline`). -/
lemma kind_of_ended (ended : rest = [] ∨ rest.head? = some '\n')
    (h : tokensFrom prior rest = .ok (prior.reverse ++ new)) :
    ∀ next, new.head? = some next → next.kind = .symbol .newline := by
  rintro next first
  rcases ended with rfl | lineEnd
  · obtain rfl : new = [] := by simpa [tokensFrom] using h
    simp at first
  · obtain ⟨below, rfl⟩ := List.head?_eq_some_iff.1 lineEnd
    rw [tokensFrom_newline] at h
    obtain ⟨later, same⟩ := tokensFrom_extends h
    obtain rfl : new = .newline :: later := by simpa using same
    obtain rfl : Token.newline = next := by simpa using first
    rfl

/-- Induction on the reading.  Within a step `Emission` says what follows; between two steps only a
comment asks for something (`kind_of_ended`). -/
lemma linked_of_tokensFrom (h : tokensFrom prior text = .ok (prior.reverse ++ new)) :
    Token.Linked new := by
  fun_induction tokensFrom prior text generalizing new with
  | case1 prior =>
    obtain rfl : new = [] := by simpa using h
    trivial
  | case2 => simp at h
  | case3 prior c text emitted rest taken ih =>
    obtain ⟨later, same⟩ := tokensFrom_extends h
    obtain rfl : new = emitted ++ later := by simpa using same
    have onward := ih (same ▸ h)
    rcases step_reads taken with ⟨word, -, -, read⟩ | ⟨emission, -⟩
    · obtain ⟨rfl, -⟩ := Prod.mk.inj (Except.ok.inj ((read prior).symm.trans taken))
      exact ⟨precedes_classify prior word _, onward⟩
    · cases emission with
      | gap => exact onward
      | comment oneLine trimmed ended => exact ⟨kind_of_ended ended (same ▸ h), onward⟩
      | newline => exact ⟨trivial, onward⟩
      | layer => exact ⟨trivial, onward⟩
      | literal shape => exact ⟨shape.precedes _, onward⟩
      | @assignment value rest shape =>
        exact ⟨⟨value, rfl, shape.kind⟩, shape.precedes _, onward⟩

/-- The tokens of a source that can be read are a stream of the right shape: each is right on its
own (`sound_of_step`), and each has the right one behind it (`linked_of_tokensFrom`). -/
theorem tokens_stream {source : Text} {stream : List Token} (read : tokens source = .ok stream) :
    Token.Stream stream := by
  have reading : tokensFrom [] source = .ok ([].reverse ++ stream) := tokensFrom_of_tokens read
  exact ⟨forall_of_tokensFrom (fun _ _ _ _ _ => sound_of_step) (by simp) reading,
    fun _ _ _ => Token.precedes_of_linked (linked_of_tokensFrom reading)⟩

/-- A marker, a reference and a comment behind an equals sign, an argument with parentheses in it, a
character without meaning and a percent sign. -/
theorem tokens_stream_marker :
    let source : Text :=
      "LAYER a END\nVAR = " ++ Text.braced "y" ++ "px //* c\n:not((b)) ; 5%"
    let stream : List Token :=
      [.layer "a" .stop, .keyword "VAR", .equals, .variableRef "y" (some "px"),
        .comment .shown "c", .newline, .pseudoClass ":not((b))", .symbol .unknown ";",
        .value (.integer 5), .valueType "%"]
    tokens source = .ok stream ∧ Token.Stream stream := by
  intro source stream
  have gap (prior : List Token) (rest : Text) : step prior ' ' rest = .ok ([], rest) := rfl
  let assigned : Text := " " ++ Text.braced "y" ++ "px //* c\n:not((b)) ; 5%"
  have marker : step [] 'L' ("AYER a END\nVAR =" ++ assigned) =
      .ok ([.layer "a" .stop], "VAR =" ++ assigned) := rfl
  have keyword (prior : List Token) : step prior 'V' ("AR =" ++ assigned) =
      .ok ([.keyword "VAR"], " =" ++ assigned) := rfl
  have value (prior : List Token) : step prior '=' assigned =
      .ok ([.equals, .variableRef "y" (some "px")], " //* c\n:not((b)) ; 5%".toList) := rfl
  have comment (prior : List Token) : step prior '/' "/* c\n:not((b)) ; 5%".toList =
      .ok ([.comment .shown "c"], "\n:not((b)) ; 5%".toList) := rfl
  have pseudo (prior : List Token) : step prior ':' "not((b)) ; 5%".toList =
      .ok ([.pseudoClass ":not((b))"], " ; 5%".toList) := rfl
  have unknown (prior : List Token) : step prior ';' " 5%".toList =
      .ok ([.symbol .unknown ";"], " 5%".toList) := rfl
  have number (prior : List Token) : step prior '5' ['%'] =
      .ok ([.value (.integer 5)], ['%']) := rfl
  have percent (prior : List Token) : step prior '%' [] = .ok ([.valueType "%"], []) := rfl
  have read : tokens source = .ok stream := tokens_of_tokensFrom <| calc
    _ = _ := tokensFrom_of_step marker
    _ = _ := tokensFrom_of_step (keyword _)
    _ = _ := tokensFrom_of_step (gap _ _)
    _ = _ := tokensFrom_of_step (value _)
    _ = _ := tokensFrom_of_step (gap _ _)
    _ = _ := tokensFrom_of_step (comment _)
    _ = _ := tokensFrom_newline
    _ = _ := tokensFrom_of_step (pseudo _)
    _ = _ := tokensFrom_of_step (gap _ _)
    _ = _ := tokensFrom_of_step (unknown _)
    _ = _ := tokensFrom_of_step (gap _ _)
    _ = _ := tokensFrom_of_step (number _)
    _ = _ := tokensFrom_of_step (percent _)
    _ = _ := by rw [tokensFrom]; rfl
  exact ⟨read, tokens_stream read⟩

end Lexer

end UtilityCss
