import UtilityCss.Proofs.Statement.Form
import UtilityCss.Proofs.Statement.Grouping
import UtilityCss.Proofs.Token.ErrorPosition

/-!
# Suffixes that are bare words

A property is expanded by its suffixes twice.  When a bare word is read, it becomes a suffix if it
names a variant of the property that stands before it, with nothing but suffixes between them, on
whatever line that is.  When the line is interpreted, its one property is expanded by all of its
suffixes, wherever they stand.

The first test is as strict as the second (`exists_expansion_of_expands`), and both are about the
same property: a line begins behind a line end or a layer marker, and the way back over suffixes
to a property passes neither (`Line.property_mem`).  So a line with one property, whose suffixes are
all bare words, is never refused for what its suffixes name (`Statement.interpret_of_bareSuffixes`).
-/

namespace UtilityCss

variable {base word name : Text} {prior before line later left : List Token}
  {source text : Text} {position : Position} {c : Char} {token : Token}

/-! ## Both tests -/

lemma expansion_eq_ok {identifier : Option Text} {names : List Text}
    (named : candidates base identifier = .ok names)
    (known : ∀ name ∈ names, name ∈ Vocabulary.properties) :
    expansion base identifier = .ok names := by
  have none : names.find? (· ∉ Vocabulary.properties) = none := by
    simpa [List.find?_eq_none] using known
  rw [expansion, named]
  simp only [bind, Except.bind, none]

/-- The test of the lexer is as strict as the one of the interpreter: `Token.expands` asks for the
very names that `candidates` lists, and that there are any. -/
theorem exists_expansion_of_expands (expands : Token.expands base word = true) :
    ∃ names, expansion base (some word) = .ok names := by
  unfold Token.expands at expands
  split at expands
  · simp at expands
  rename_i notNone
  split at expands
  · rename_i all
    have given : Vocabulary.variants base ≠ [] := by
      simpa using (Bool.and_eq_true_iff.1 expands).2
    refine ⟨Vocabulary.variants base, expansion_eq_ok ?_ fun name mem => (List.mem_filter.1 mem).1⟩
    rw [candidates, if_neg notNone, if_pos all, if_neg given]
  · rename_i notAll
    refine ⟨[base ++ "-" ++ word], expansion_eq_ok ?_ (List.forall_mem_singleton.2 ?_)⟩
    · rw [candidates, if_neg notNone, if_neg notAll]
    · exact of_decide_eq_true expands

/-! ## The property of a word -/

namespace Token

lemma expands_of_classify (read : classify prior word = .identifier name) :
    ∃ base, statementProperty? prior = some base ∧ expands base name = true := by
  unfold classify at read
  split at read
  · simp at read
  split at read
  · rename_i suffix
    obtain rfl : word = name := by simpa using read
    simpa [Option.any_eq_true] using (Bool.and_eq_true_iff.1 suffix).2
  iterate 3
    split at read
    · simp at read
  simp at read

/-- `statementProperty?` drops the suffixes from the tokens read so far and looks at the next
one. -/
lemma exists_of_statementProperty? (found : statementProperty? prior = some base) :
    ∃ suffixes older, prior = suffixes ++ .property base :: older ∧
      ∀ token ∈ suffixes, token.isIdentifier = true := by
  unfold statementProperty? at found
  split at found
  · rename_i name older dropped
    obtain rfl := Option.some.inj found
    refine ⟨prior.takeWhile isIdentifier, older, ?_, fun token => List.mem_takeWhile_imp⟩
    rw [← dropped, List.takeWhile_append_dropWhile]
  · simp at found

lemma inline_of_isIdentifier (suffix : token.isIdentifier = true) : token.inline = true := by
  cases token with
  | identifier name => rfl
  | _ => simp [isIdentifier] at suffix

end Token

namespace Line

/-- If the token before the line were inline, `together_groupFrom` would put it into one line with
the first token of this one. -/
lemma not_inline_of_group
    (grouped : group (before ++ line ++ later) = group before ++ line :: group later)
    (given : line ≠ []) (inline : ∀ token ∈ line, token.inline = true) :
    ∀ last ∈ before.getLast?, last.inline = false := by
  intro last ends
  obtain ⟨front, rfl⟩ := List.getLast?_eq_some_iff.1 ends
  by_contra continued
  have continued : last.inline = true := by simpa using continued
  obtain ⟨next, rest, rfl⟩ := List.exists_cons_of_ne_nil given
  have together := together_groupFrom continued (inline next List.mem_cons_self) [] front
    (rest ++ later)
  have joined : front ++ last :: next :: (rest ++ later) =
      front ++ [last] ++ next :: rest ++ later := by simp
  rw [joined, ← group, grouped, List.length_nil, Nat.zero_add] at together
  refine not_together_append ?_ together
  rw [group, flatten_groupFrom, solid_append, solid_cons (inline_iff.1 continued).1]
  simp [solid]

/-- `Token.statementProperty?` knows nothing of lines.  But the way back to the property passes
suffixes only, and they are inline, while a line begins behind a token that is not
(`not_inline_of_group`). -/
theorem property_mem (starts : ∀ last ∈ before.getLast?, last.inline = false)
    (found : Token.statementProperty? (before ++ left).reverse = some base) :
    .property base ∈ left := by
  obtain ⟨suffixes, older, split, passed⟩ := Token.exists_of_statementProperty? found
  -- If the way back left the line, it would have passed the token that the line begins behind.
  have within {gap : List Token} (suffixed : ∀ token ∈ gap, token.isIdentifier = true) :
      before.reverse ≠ gap ++ .property base :: older := by
    intro back
    have last : before.getLast? = (gap ++ .property base :: older).head? := by
      rw [← back, List.head?_reverse]
    cases gap with
    | nil => simpa [Token.inline] using starts _ last
    | cons suffix gap =>
      have ends := starts suffix last
      rw [Token.inline_of_isIdentifier (suffixed suffix List.mem_cons_self)] at ends
      simp at ends
  rw [List.reverse_append] at split
  rcases List.append_eq_append_iff.1 split with ⟨gap, rfl, back⟩ | ⟨gap, inside, back⟩
  · exact absurd back (within fun token mem => passed token (List.mem_append_right _ mem))
  · cases gap with
    | nil => exact absurd back.symm (within (List.forall_mem_nil _))
    | cons first gap =>
      obtain ⟨rfl, -⟩ := List.cons.inj back
      rw [← List.mem_reverse, inside]
      simp

end Line

/-! ## Words of a source -/

namespace Lexer

/-- `tokensFrom_of_step` along the steps that `Reached` records, so that a state in the middle of a
source knows the whole list of tokens. -/
lemma Reached.tokensFrom_eq {rest : Text} (reached : Reached source position prior rest) :
    tokensFrom prior rest = tokensFrom [] source := by
  induction reached with
  | start => rfl
  | next before taken split ih => rw [← ih, tokensFrom_of_step taken]

/-- `step_of_word` gives the next token, and `tokensFrom_extends` says that it stays where it is, so
it is the one that `read` has there. -/
lemma Reached.classify_eq (reached : Reached source position before.reverse (c :: text))
    (begins : BeginsBareWord c text) (read : tokens source = .ok (before ++ token :: later)) :
    ∃ word, Token.classify before.reverse word = token := by
  have all := reached.tokensFrom_eq.trans (tokensFrom_of_tokens read)
  rw [tokensFrom_of_step (step_of_word begins)] at all
  obtain ⟨new, same⟩ := tokensFrom_extends all
  have same : token :: later =
      Token.classify before.reverse (c :: text.takeWhile isWordPart) :: new := by
    simpa using same
  exact ⟨_, (List.cons.inj same).1.symm⟩

end Lexer

/-! ## The line -/

lemma StatementFault.Formal.ne_expansion {fault : StatementFault} (formal : fault.Formal) :
    (∀ name, fault ≠ .invalidProperty name) ∧ ∀ name, fault ≠ .noVariants name := by
  constructor <;>
  · rintro name rfl
    exact formal

/-- `Token.expands_of_classify` finds a property for the word and `Line.property_mem` puts it on the
line, where it can only be the one that `single` allows. -/
lemma exists_expansion_of_bareWord {right : List Token}
    (read : Lexer.tokens source = .ok (before ++ (left ++ .identifier name :: right) ++ later))
    (starts : ∀ last ∈ before.getLast?, last.inline = false)
    (single : (left ++ .identifier name :: right).filterMap Addition.property? = [base])
    (reached : Lexer.Reached source position (before ++ left).reverse (c :: text))
    (begins : Lexer.BeginsBareWord c text) :
    ∃ names, expansion base (some name) = .ok names := by
  have next : Lexer.tokens source =
      .ok (before ++ left ++ .identifier name :: (right ++ later)) := by
    rw [read]
    simp
  obtain ⟨word, classified⟩ := reached.classify_eq begins next
  obtain ⟨own, found, expands⟩ := Token.expands_of_classify classified
  have listed : own ∈ (left ++ .identifier name :: right).filterMap Addition.property? :=
    List.mem_filterMap.2
      ⟨.property own, List.mem_append_left _ (Line.property_mem starts found), rfl⟩
  obtain rfl : own = base := by simpa [single] using listed
  exact exists_expansion_of_expands expands

namespace Addition

lemma property?_eq_some_iff : property? token = some name ↔ token = .property name := by
  cases token <;> simp [property?]

lemma identifier?_eq_some_iff : identifier? token = some name ↔ token = .identifier name := by
  cases token <;> simp [identifier?]

/-- `Lexer.sound_of_step` for all tokens of the source; of a property `Token.Sound` says that the
vocabulary has it. -/
lemma property_known (read : Lexer.tokens source = .ok (before ++ line ++ later))
    (mem : .property base ∈ line) : base ∈ Vocabulary.properties := by
  have sound : ∀ token ∈ before ++ line ++ later, token.Sound :=
    Lexer.forall_of_tokensFrom (fun _ _ _ _ _ => Lexer.sound_of_step) (List.forall_mem_nil _)
      (Lexer.tokensFrom_of_tokens read)
  exact (sound (.property base) (by simp [mem])).formed

/-- `Addition.properties` fails only where `expansion` does, for one of the `suffixes` or, where the
line has none, for the property itself (`expansion_none`). -/
lemma exists_properties {store : Store} {addition : Addition}
    (made : read store line = .ok addition) (single : line.filterMap property? = [base])
    (known : base ∈ Vocabulary.properties)
    (expands : ∀ name, .identifier name ∈ line → ∃ names, expansion base (some name) = .ok names) :
    ∃ names, addition.properties = .ok names := by
  obtain ⟨own, suffixed, -⟩ := said_of_read made
  obtain rfl : base = addition.base := by simpa [single] using own
  have each : ∀ suffix ∈ suffixes line, ∃ names, expansion addition.base suffix = .ok names := by
    unfold suffixes
    split
    · exact List.forall_mem_singleton.2 ⟨_, expansion_none known⟩
    · intro suffix mem
      obtain ⟨name, listed, rfl⟩ := List.mem_map.1 mem
      obtain ⟨token, inside, named⟩ := List.mem_filterMap.1 listed
      exact expands name (identifier?_eq_some_iff.1 named ▸ inside)
  obtain ⟨listed, expanded⟩ := exists_mapM_eq_ok_iff.2 each
  exact ⟨_, (properties_eq_ok_iff suffixed).2 ⟨listed, expanded, rfl⟩⟩

end Addition

namespace Statement

/-- On a line with one property, which may stand anywhere in a source, all suffixes that were read
where a bare word begins (`Lexer.BeginsBareWord`) expand this property.  If there are no others, the
line is not refused because an expanded property is unknown or the property has no variants: the
lexer has asked before, about the same property (`Line.property_mem`). -/
theorem interpret_of_bareSuffixes
    (read : Lexer.tokens source = .ok (before ++ line ++ later))
    (grouped : Line.group (before ++ line ++ later) = Line.group before ++ line :: Line.group later)
    (single : line.filterMap Addition.property? = [base])
    (bare : ∀ left name right, line = left ++ .identifier name :: right →
      ∃ position c text, Lexer.Reached source position (before ++ left).reverse (c :: text) ∧
        Lexer.BeginsBareWord c text) :
    (∀ name, .identifier name ∈ line → ∃ names, expansion base (some name) = .ok names) ∧
    ∀ store fault, interpret store line = .error fault →
      (∀ name, fault ≠ .invalidProperty name) ∧ ∀ name, fault ≠ .noVariants name := by
  have mem : .property base ∈ line := by
    obtain ⟨token, inside, named⟩ := List.mem_filterMap.1 (single ▸ List.mem_singleton_self base)
    exact Addition.property?_eq_some_iff.1 named ▸ inside
  have inline : ∀ token ∈ line, token.inline = true := by
    have listed : line ∈ Line.group (before ++ line ++ later) := by
      rw [grouped]
      exact List.mem_append_right _ List.mem_cons_self
    rcases Line.inline_of_mem_groupFrom (List.forall_mem_nil _) listed with ⟨_, _, rfl⟩ | inline
    · simp at mem
    · exact inline
  have starts := Line.not_inline_of_group grouped (List.ne_nil_of_mem mem) inline
  have expands (name : Text) (suffix : .identifier name ∈ line) :
      ∃ names, expansion base (some name) = .ok names := by
    obtain ⟨left, right, rfl⟩ := List.append_of_mem suffix
    obtain ⟨position, c, text, reached, begins⟩ := bare left name right rfl
    exact exists_expansion_of_bareWord read starts single reached begins
  refine ⟨expands, fun store => fails_interpret (fun _ => StatementFault.Formal.ne_expansion) ?_ ?_⟩
  · intro addition made
    obtain ⟨names, named⟩ := Addition.exists_properties made single
      (Addition.property_known read mem) expands
    rw [named]
    exact fails_ok _
  · intro text _
    rw [Assignment.literalSlot]
    cases Slot.read text with
    | error e => exact fails_error ⟨by simp, by simp⟩
    | ok slot => exact fails_ok _

set_option maxRecDepth 1000 in
/-- Two suffixes in a row, below a line that ends with another property. -/
theorem interpret_of_bareSuffixes_chain :
    let source : Text := "ADD margin\nADD padding top all 4px"
    let before : List Token := [.keyword "ADD", .property "margin", .newline]
    let line : List Token := [.keyword "ADD", .property "padding", .identifier "top",
      .identifier "all", .value (.text "4px")]
    Lexer.tokens source = .ok (before ++ line ++ []) ∧
    Line.group (before ++ line ++ []) = Line.group before ++ line :: Line.group [] ∧
    line.filterMap Addition.property? = ["padding".toList] ∧
    (∀ left name right, line = left ++ .identifier name :: right →
      ∃ position c text, Lexer.Reached source position (before ++ left).reverse (c :: text) ∧
        Lexer.BeginsBareWord c text) ∧
    (∀ name, .identifier name ∈ line → ∃ names, expansion "padding" (some name) = .ok names) ∧
    ∀ store fault, interpret store line = .error fault →
      (∀ name, fault ≠ .invalidProperty name) ∧ ∀ name, fault ≠ .noVariants name := by
  intro source before line
  have gap (prior : List Token) (rest : Text) : Lexer.step prior ' ' rest = .ok ([], rest) := rfl
  have opening : Lexer.Reached source .start []
      ('A' :: "DD margin\nADD padding top all 4px".toList) := .start
  have keyword : Lexer.step [] 'A' "DD margin\nADD padding top all 4px".toList =
      .ok ([.keyword "ADD"], " margin\nADD padding top all 4px".toList) := rfl
  have margin : Lexer.step [.keyword "ADD"] 'm' "argin\nADD padding top all 4px".toList =
      .ok ([.property "margin"], "\nADD padding top all 4px".toList) := rfl
  have lineEnd : Lexer.step [.property "margin", .keyword "ADD"] '\n'
      "ADD padding top all 4px".toList = .ok ([.newline], "ADD padding top all 4px".toList) := rfl
  have keyword' : Lexer.step before.reverse 'A' "DD padding top all 4px".toList =
      .ok ([.keyword "ADD"], " padding top all 4px".toList) := rfl
  have padding : Lexer.step (.keyword "ADD" :: before.reverse) 'p' "adding top all 4px".toList =
      .ok ([.property "padding"], " top all 4px".toList) := rfl
  have top : Lexer.step (before ++ line.take 2).reverse 't' "op all 4px".toList =
      .ok ([.identifier "top"], " all 4px".toList) := rfl
  have all : Lexer.step (before ++ line.take 3).reverse 'a' "ll 4px".toList =
      .ok ([.identifier "all"], " 4px".toList) := rfl
  have value : Lexer.step (before ++ line.take 4).reverse '4' "px".toList =
      .ok ([.value (.text "4px")], []) := rfl
  obtain ⟨_, reached⟩ := opening.step keyword
  obtain ⟨_, reached⟩ := reached.step (gap _ _)
  obtain ⟨_, reached⟩ := reached.step margin
  obtain ⟨_, reached⟩ := reached.step lineEnd
  obtain ⟨_, reached⟩ := reached.step keyword'
  obtain ⟨_, reached⟩ := reached.step (gap _ _)
  obtain ⟨_, reached⟩ := reached.step padding
  obtain ⟨_, atTop⟩ := reached.step (gap _ _)
  obtain ⟨_, reached⟩ := atTop.step top
  obtain ⟨_, atAll⟩ := reached.step (gap _ _)
  obtain ⟨_, reached⟩ := atAll.step all
  obtain ⟨_, reached⟩ := reached.step (gap _ _)
  obtain ⟨_, reached⟩ := reached.step value
  have read : Lexer.tokens source = .ok (before ++ line ++ []) :=
    Lexer.tokens_of_tokensFrom (reached.tokensFrom_eq.symm.trans (by rw [Lexer.tokensFrom]; rfl))
  have bare : ∀ left name right, line = left ++ .identifier name :: right →
      ∃ position c text, Lexer.Reached source position (before ++ left).reverse (c :: text) ∧
        Lexer.BeginsBareWord c text := by
    intro left name right split
    rcases left with _ | ⟨first, _ | ⟨second, _ | ⟨third, _ | ⟨fourth, _ | ⟨fifth, left⟩⟩⟩⟩⟩
    all_goals simp [line] at split
    · obtain ⟨rfl, rfl, -⟩ := split
      exact ⟨_, _, _, atTop, rfl, rfl, rfl⟩
    · obtain ⟨rfl, rfl, rfl, -⟩ := split
      exact ⟨_, _, _, atAll, rfl, rfl, rfl⟩
  have grouped : Line.group (before ++ line ++ []) =
      Line.group before ++ line :: Line.group [] := rfl
  exact ⟨read, grouped, rfl, bare, interpret_of_bareSuffixes read grouped rfl bare⟩

end Statement

end UtilityCss
