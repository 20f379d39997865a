import UtilityCss.Proofs.Token.BeforeBlank

/-!
# A comment at the end of a line

A line with a private comment after it is read as before, with one more token
(`Lexer.tokensFrom_privateComment`).  Words on the lines below look back at the tokens before them,
but not past the end of a line in any way that a comment could change (`Token.SameContext`).  The
lines of a source thus stay what they are, but for the comment (`Lexer.lines_comment`).
-/

namespace UtilityCss

/-! ## What a word sees of the tokens before it -/

namespace Token

variable {prior other : List Token} {token next : Token}

/-- The token after the last keyword, or the first one if there is no keyword. -/
def afterKeyword (prior : List Token) : Option Token :=
  (prior.takeWhile fun token => !token.isKeyword).getLast?

/-- Words are classified alike after the tokens, and after any that follow both. -/
structure SameContext (prior other : List Token) : Prop where
  property : statementProperty? prior = statementProperty? other
  keyword : prior.head?.filter isKeyword = other.head?.filter isKeyword
  fresh : prior.head?.all isKeyword = other.head?.all isKeyword
  keyworded : prior.any isKeyword = other.any isKeyword
  after : (afterKeyword prior).any isProperty = (afterKeyword other).any isProperty

lemma SameContext.classify (same : SameContext prior other) (word : Text) :
    classify prior word = classify other word := by
  have follows (prior : List Token) :
      followsKeyword prior = (prior.head?.filter isKeyword).isSome := by
    unfold followsKeyword
    cases prior.head? with
    | none => rfl
    | some token => cases keyword : token.isKeyword <;> simp [keyword]
  have names (prior : List Token) : prior.head? = some (.keyword "VAR") ↔
      prior.head?.filter isKeyword = some (.keyword "VAR") := by
    rw [Option.filter_eq_some_iff]
    simp [isKeyword]
  have awaits : awaitsProperty prior = awaitsProperty other := by
    rw [awaitsProperty, awaitsProperty, same.keyworded]
    exact congrArg (other.any isKeyword && !·) same.after
  simp only [Token.classify, follows, names, same.property, same.keyword, awaits]

lemma afterKeyword_cons (token : Token) (prior : List Token) :
    (afterKeyword (token :: prior)).any isProperty =
      if token.isKeyword then false
      else if prior.head?.all isKeyword then token.isProperty
      else (afterKeyword prior).any isProperty := by
  unfold afterKeyword
  cases keyword : token.isKeyword with
  | true => simp [keyword]
  | false =>
    rw [List.takeWhile_cons_of_pos (by simp [keyword])]
    cases prior with
    | nil => simp
    | cons next rest => cases last : next.isKeyword <;> simp [last]

lemma SameContext.cons (same : SameContext prior other) (token : Token) :
    SameContext (token :: prior) (token :: other) where
  property := by
    have property := same.property
    cases token <;> first | rfl | exact property
  keyword := rfl
  fresh := rfl
  keyworded := by rw [List.any_cons, List.any_cons, same.keyworded]
  after := by rw [afterKeyword_cons, afterKeyword_cons, same.fresh, same.after]

lemma SameContext.append (same : SameContext prior other) (tokens : List Token) :
    SameContext (tokens ++ prior) (tokens ++ other) := by
  induction tokens with
  | nil => exact same
  | cons token tokens ih => exact ih.cons token

/-- A token that no rule for words looks for. -/
def isInert : Token → Bool
  | .symbol _ _ => true
  | .comment _ _ => true
  | .layer _ _ => true
  | _ => false

lemma afterKeyword_inert (inert : token.isInert = true) (prior : List Token) :
    (afterKeyword (token :: prior)).any isProperty = (afterKeyword prior).any isProperty := by
  have plain : token.isKeyword = false ∧ token.isProperty = false := by
    cases token <;> first | exact ⟨rfl, rfl⟩ | simp [isInert] at inert
  rw [afterKeyword_cons, plain.1, plain.2, if_neg (by simp)]
  split
  · rename_i fresh
    cases prior with
    | nil => rfl
    | cons next rest =>
      have keyword : next.isKeyword = true := by simpa using fresh
      simp [afterKeyword, keyword]
  · rfl

/-- An inert token hides what `statementProperty?` and the tests of the last token could see; the
last keyword and the token after it are seen through it (`afterKeyword_inert`). -/
lemma sameContext_inert (inert : token.isInert = true) (inert' : next.isInert = true)
    (keyworded : prior.any isKeyword = other.any isKeyword)
    (after : (afterKeyword prior).any isProperty = (afterKeyword other).any isProperty) :
    SameContext (token :: prior) (next :: other) := by
  have hidden {token : Token} (inert : token.isInert = true) (prior : List Token) :
      statementProperty? (token :: prior) = none ∧ token.isKeyword = false := by
    cases token <;> first | exact ⟨rfl, rfl⟩ | simp [isInert] at inert
  obtain ⟨noProperty, noKeyword⟩ := hidden inert prior
  obtain ⟨noProperty', noKeyword'⟩ := hidden inert' other
  exact {
    property := noProperty.trans noProperty'.symm
    keyword := by simp [Option.filter, noKeyword, noKeyword']
    fresh := by simp [noKeyword, noKeyword']
    keyworded := by simp [noKeyword, noKeyword', keyworded]
    after := by rw [afterKeyword_inert inert, afterKeyword_inert inert', after] }

/-- A line end stands last in both lists, and the comment before it is inert too
(`sameContext_inert`). -/
lemma sameContext_comment (visibility : Visibility) (content : Text) (prior : List Token) :
    SameContext (.newline :: prior) (.newline :: .comment visibility content :: prior) :=
  sameContext_inert rfl rfl (by simp [isKeyword]) (afterKeyword_inert rfl prior).symm

/-- The marker has taken its line end along, and behind a comment there is one again; all of these
tokens are inert (`sameContext_inert`). -/
lemma sameContext_layer (name : Text) (edge : Edge) (visibility : Visibility) (content : Text)
    (prior : List Token) :
    SameContext (.layer name edge :: prior)
      (.newline :: .comment visibility content :: .layer name edge :: prior) :=
  sameContext_inert rfl rfl (by simp [isKeyword])
    (by rw [afterKeyword_inert rfl, afterKeyword_inert rfl])

end Token

namespace Lexer

variable {prior other new : List Token} {text below content : Text}

/-! ## Words in another context -/

lemma step_sameContext (same : Token.SameContext prior other) (c : Char)
    (text : Text) : step prior c text = step other c text := by
  by_cases word : BeginsBareWord c text
  · rw [step_of_word word, step_of_word word, same.classify]
  · exact step_of_not_word word prior other

lemma tokensFrom_sameContext (same : Token.SameContext prior other)
    (read : tokensFrom prior text = .ok (prior.reverse ++ new)) :
    tokensFrom other text = .ok (other.reverse ++ new) := by
  fun_induction tokensFrom prior text generalizing other new with
  | case1 prior =>
    obtain rfl : new = [] := by simpa using read
    simp [tokensFrom]
  | case2 => simp at read
  | case3 prior c text emitted rest taken ih =>
    obtain ⟨later, split⟩ := tokensFrom_extends read
    obtain rfl : new = emitted ++ later := by simpa using split
    rw [tokensFrom_of_step (step_sameContext same c text ▸ taken),
      ih (same.append emitted.reverse) (split ▸ read)]
    simp

/-! ## The line with its comment -/

/-- The text of a private comment. -/
structure IsPrivate (content : Text) : Prop where
  oneLine : '\n' ∉ content
  unstarred : content.head? ≠ some '*'

/-- Nothing follows, or a line end does. -/
def EndsLine (below : Text) : Prop := below = [] ∨ below.head? = some '\n'

lemma tokensFrom_slashes (prior : List Token) (hidden : IsPrivate content)
    (ends : EndsLine below) :
    tokensFrom prior ('/' :: '/' :: (content ++ below)) =
      tokensFrom (.comment .hidden (Text.trim content) :: prior) below := by
  have all : ∀ c ∈ content, (c != '\n') = true := by
    intro c mem
    simpa using fun same : c = '\n' => hidden.oneLine (same ▸ mem)
  have stops : ∀ c ∈ below.head?, (c != '\n') = false := by
    rcases ends with rfl | lineEnd
    · simp
    · simp [lineEnd]
  have noStar : (content ++ below).head? ≠ some '*' := by
    cases content with
    | nil => rcases ends with rfl | lineEnd <;> simp_all
    | cons c content => simpa using hidden.unstarred
  have read : comment (content ++ below) = (.comment .hidden (Text.trim content), below) := by
    simp only [comment, Text.skip_of_head?_ne noStar, if_neg noStar, Text.takeWhile_run all stops,
      Text.dropWhile_run all stops]
  have taken : step prior '/' ('/' :: (content ++ below)) =
      .ok ([.comment .hidden (Text.trim content)], below) := by
    rw [step, if_neg (by decide), if_pos ⟨rfl, rfl⟩, List.tail_cons, read]
    rfl
  exact tokensFrom_of_step taken

/-- Induction on the reading.  Each step is the same before a blank (`step_clear`); a marker that
takes the blank along is the last thing on its line, and the comment follows either way
(`tokensFrom_slashes`). -/
theorem tokensFrom_privateComment (read : tokensFrom prior text = .ok (prior.reverse ++ new))
    (noComment : ∀ visibility content, .comment visibility content ∉ new)
    (noKeyword : .keyword "LAYER" ∉ new) (hidden : IsPrivate content) (ends : EndsLine below) :
    tokensFrom prior (text ++ ' ' :: '/' :: '/' :: (content ++ below)) =
      tokensFrom (.comment .hidden (Text.trim content) :: (new.reverse ++ prior)) below := by
  have clear : Clear (' ' :: '/' :: '/' :: (content ++ below)) := by
    rintro c ⟨⟩
    decide
  fun_induction tokensFrom prior text generalizing new with
  | case1 prior =>
    obtain rfl : new = [] := by simpa using read
    have gap : step prior ' ' ('/' :: '/' :: (content ++ below)) =
        .ok ([], '/' :: '/' :: (content ++ below)) := by
      rw [step, if_pos (by decide)]
    rw [List.nil_append, tokensFrom_of_step gap]
    exact tokensFrom_slashes prior hidden ends
  | case2 => simp at read
  | case3 prior c text emitted rest taken ih =>
    obtain ⟨later, same⟩ := tokensFrom_extends read
    obtain rfl : new = emitted ++ later := by simpa using same
    have here : ∀ visibility content, .comment visibility content ∉ emitted :=
      fun visibility content mem => noComment visibility content (List.mem_append_left _ mem)
    rcases step_clear clear taken here (mt (List.mem_append_left _) noKeyword) with
      longer | ⟨rfl, longer⟩
    · rw [List.cons_append, tokensFrom_of_step longer, List.reverse_append, List.append_assoc]
      exact ih (same ▸ read)
        (fun visibility content mem => noComment visibility content (List.mem_append_right _ mem))
        (mt (List.mem_append_right _) noKeyword)
    · -- The marker took the blank along, and it was the last thing on its line.
      obtain rfl : later = [] := by simpa [tokensFrom] using read
      have left : finishLine (' ' :: '/' :: '/' :: (content ++ below)) =
          '/' :: '/' :: (content ++ below) := by
        rw [finishLine, List.dropWhile_cons_of_pos (by decide),
          List.dropWhile_cons_of_neg (by decide)]
        rfl
      rw [List.cons_append, tokensFrom_of_step longer, left, tokensFrom_slashes _ hidden ends,
        List.append_nil]

/-! ## A line of a source -/

/-- A line of a source, with what stands above and below it. -/
structure IsLine (above line below : Text) : Prop where
  first : above = [] ∨ above.getLast? = some '\n'
  oneLine : '\n' ∉ line
  last : EndsLine below

/-- The tokens of a line that stands below others. -/
def tokensOn (above line : Text) : List Token :=
  match tokens above, tokens (above ++ line) with
  | .ok before, .ok read => read.drop before.length
  | _, _ => []

/-- The two cases of `tokensFrom_line` as one state: behind a line end, or behind the marker that
took it along, `Line.group` begins a new line, and the context is that of a line with a comment
(`sameContext_comment`, `sameContext_layer`). -/
lemma tokensFrom_lineEnd (read : tokensFrom prior text = .ok (prior.reverse ++ new)) :
    ∃ state, (∀ below, tokensFrom prior (text ++ '\n' :: below) = tokensFrom state below) ∧
      (∀ later, Line.group (state.reverse ++ later) =
        Line.group (prior.reverse ++ new) ++ Line.group later) ∧
      ∀ visibility content, Token.SameContext state
        (.newline :: .comment visibility content :: (new.reverse ++ prior)) := by
  rcases tokensFrom_line read with joint | ⟨⟨older, name, edge, rfl⟩, joint⟩
  · refine ⟨_, joint, fun later => ?_, fun _ _ => Token.sameContext_comment _ _ _⟩
    rw [List.reverse_cons, List.append_assoc, List.singleton_append, Line.group_append_newline]
    simp
  · refine ⟨_, joint, fun later => ?_, fun visibility content => ?_⟩
    · have shape : (List.reverse (older ++ [Token.layer name edge]) ++ prior).reverse ++ later =
          (prior.reverse ++ older) ++ .layer name edge :: later := by simp
      rw [shape, ← List.append_assoc, Line.group_append_layer, Line.group_append_layer]
      simp [Line.group, Line.groupFrom, Line.flush]
    · rw [List.reverse_append]
      exact Token.sameContext_layer name edge visibility content _

/-- `tokensFrom_lineEnd` for the lines above, which end with a line end unless there are none. -/
lemma tokensFrom_above {above : Text} {read : List Token}
    (first : above = [] ∨ above.getLast? = some '\n')
    (h : tokensFrom [] (above ++ text) = .ok read) :
    ∃ before, (∀ text, tokensFrom [] (above ++ text) = tokensFrom before.reverse text) ∧
      ∀ more, Line.group (before ++ more) = Line.group before ++ Line.group more := by
  rcases first with rfl | lineEnd
  · exact ⟨[], fun _ => rfl, fun _ => rfl⟩
  obtain ⟨up, rfl⟩ := List.getLast?_eq_some_iff.1 lineEnd
  simp only [List.append_assoc, List.singleton_append] at h ⊢
  cases upper : tokensFrom [] up with
  | error stop => simp [tokensFrom_line_of_error upper] at h
  | ok before =>
    have start : tokensFrom [] up = .ok ([].reverse ++ before) := upper
    obtain ⟨state, joint, lines, -⟩ := tokensFrom_lineEnd start
    refine ⟨state.reverse, fun text => ?_, fun more => ?_⟩
    · rw [joint, List.reverse_reverse]
    · have own := lines []
      rw [List.append_nil] at own
      rw [lines, own]
      simp [Line.group, Line.groupFrom, Line.flush]

/-- By `tokensFrom_line_of_error` the lines below do not make up for what is wrong with a line. -/
lemma tokensFrom_of_endsLine {read : List Token} (ends : EndsLine below)
    (h : tokensFrom prior (text ++ below) = .ok read) :
    ∃ new, tokensFrom prior text = .ok (prior.reverse ++ new) := by
  cases own : tokensFrom prior text with
  | ok found =>
    obtain ⟨new, rfl⟩ := tokensFrom_extends own
    exact ⟨new, rfl⟩
  | error stop =>
    rcases ends with rfl | lineEnd
    · rw [List.append_nil, own] at h
      simp at h
    · obtain ⟨lower, rfl⟩ := List.head?_eq_some_iff.1 lineEnd
      simp [tokensFrom_line_of_error own] at h

/-- The lines above are read first (`tokensFrom_above`), then the line with its comment
(`tokensFrom_privateComment`), and the lines below are read alike because the context is the same
(`tokensFrom_sameContext`). -/
theorem lines_comment {above line : Text} {read : List Token} (isLine : IsLine above line below)
    (h : tokens (above ++ (line ++ below)) = .ok read) :
    ∃ upper lower, Line.group read = upper ++ Line.group (tokensOn above line) ++ lower ∧
      ((∀ visibility content, .comment visibility content ∉ tokensOn above line) →
        .keyword "LAYER" ∉ tokensOn above line → ∀ content, IsPrivate content →
        ∃ commented,
          tokens (above ++ (line ++ ' ' :: '/' :: '/' :: (content ++ below))) = .ok commented ∧
          Line.group commented =
            upper ++ Line.group (tokensOn above line ++ [.comment .hidden (Text.trim content)]) ++
              lower) := by
  have whole := tokensFrom_of_tokens h
  obtain ⟨before, onward, apart⟩ := tokensFrom_above isLine.first whole
  rw [onward] at whole
  obtain ⟨new, own⟩ := tokensFrom_of_endsLine isLine.last whole
  have on : tokensOn above line = new := by
    have aboveRead : tokens above = .ok before :=
      tokens_of_tokensFrom (by simpa [tokensFrom] using onward [])
    have lineRead : tokens (above ++ line) = .ok (before ++ new) :=
      tokens_of_tokensFrom (by rw [onward, own, List.reverse_reverse])
    simp [tokensOn, aboveRead, lineRead]
  rw [on]
  rcases isLine.last with rfl | lineEnd
  · refine ⟨Line.group before, [], ?_, fun noComment noKeyword content hidden =>
      ⟨before ++ (new ++ [.comment .hidden (Text.trim content)]), tokens_of_tokensFrom ?_, ?_⟩⟩
    · rw [List.append_nil, own, List.reverse_reverse] at whole
      rw [← Except.ok.inj whole, apart, List.append_nil]
    · rw [onward, tokensFrom_privateComment own noComment noKeyword hidden (.inl rfl)]
      simp [tokensFrom]
    · rw [apart, List.append_nil]
  · obtain ⟨lower, rfl⟩ := List.head?_eq_some_iff.1 lineEnd
    obtain ⟨state, joint, lines, same⟩ := tokensFrom_lineEnd own
    rw [joint] at whole
    obtain ⟨later, rfl⟩ := tokensFrom_extends whole
    refine ⟨Line.group before, Line.group later, ?_, fun noComment noKeyword content hidden =>
      ⟨before ++ (new ++ [.comment .hidden (Text.trim content)] ++ .newline :: later),
        tokens_of_tokensFrom ?_, ?_⟩⟩
    · rw [lines, List.reverse_reverse, apart]
    · rw [onward, tokensFrom_privateComment own noComment noKeyword hidden (.inr rfl),
        tokensFrom_newline, tokensFrom_sameContext (same _ _) whole]
      simp
    · rw [apart, Line.group_append_newline, List.append_assoc]

end Lexer

end UtilityCss
