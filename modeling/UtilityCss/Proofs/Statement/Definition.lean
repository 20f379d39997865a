import UtilityCss.Proofs.Statement.Repetition
import UtilityCss.Proofs.Statement.Substitution
import UtilityCss.Proofs.Store.Literal
import UtilityCss.Proofs.Token.WrittenValue

/-!
# What a definition keeps of its values

A definition binds its name to the values that are written in it, one after the other
(`Program.parse_written_definition`), with one exception.  A word after the first value that names a
property is taken for the property of the line unless it is a value in its own right, and a
definition passes over properties.  So the word is lost, and with it words after it that would be
suffixes of the property.  Of the values that are kept only zero is changed: it has no sign.

A value that is lost takes nothing with it but itself: a comma behind it goes to the value before.
So a text from which something is missing is shorter than the whole (`Lexer.room_rowPhrase_lt`),
which is how the exception is seen to be exact.
-/

namespace UtilityCss

/-! ## Phrases with parts left out -/

namespace Phrase

variable {phrase other : Option Text} {part : Text} {kept comma : Bool}

/-- The phrase with one more part, which may be left out, and perhaps a comma. -/
def extend (phrase : Option Text) (part : Text) (kept comma : Bool) : Option Text :=
  let longer := if kept then add phrase part else phrase
  if comma then close longer else longer

/-- The length of a phrase with a blank behind it. -/
def room (phrase : Option Text) : Nat := phrase.elim 0 (·.length + 1)

lemma room_add : room (add phrase part) = room phrase + part.length + 1 := by
  cases phrase with
  | none => simp [room, add]
  | some text => simp [room, add]; omega

lemma room_close_le : room (close phrase) ≤ room phrase + 1 := by
  cases phrase <;> simp [room, close]

lemma room_close_add : room (close (add phrase part)) = room phrase + part.length + 2 := by
  cases phrase with
  | none => simp [room, close, add]
  | some text => simp [room, close, add]; omega

lemma room_extend_true : room (extend phrase part true comma) =
    room phrase + part.length + (if comma then 2 else 1) := by
  cases comma with
  | false => exact room_add
  | true => exact room_close_add

lemma room_extend_false_le : room (extend phrase part false comma) ≤
    room phrase + (if comma then 1 else 0) := by
  cases comma with
  | false => exact Nat.le_refl _
  | true => exact room_close_le

/-- A part that is left out saves its length and the blank before it, while a comma behind it is
still written, if there is a value for it to follow (`room_extend_false_le`). -/
lemma room_extend_lt (less : room phrase ≤ room other) :
    room (extend phrase part false comma) + 1 ≤ room (extend other part true comma) := by
  have short := @room_extend_false_le phrase part comma
  rw [room_extend_true]
  cases comma <;> simp only [if_true, Bool.false_eq_true, if_false] at short ⊢ <;> omega

/-- The step that carries the difference of `room_extend_lt` through the rest of a row: on the right
every part is kept. -/
lemma room_extend_le {k : Nat} (less : room phrase + k ≤ room other) :
    room (extend phrase part kept comma) + k ≤ room (extend other part true comma) := by
  cases kept with
  | true =>
    rw [room_extend_true, room_extend_true]
    omega
  | false =>
    have short := @room_extend_false_le phrase part comma
    rw [room_extend_true]
    cases comma <;> simp only [if_true, Bool.false_eq_true, if_false] at short ⊢ <;> omega

end Phrase

/-- Does a definition keep the token as a value? -/
def Token.isKept : Token → Bool
  | .value _ | .variable _ | .variableRef _ _ => true
  | _ => false

namespace Lexer

variable {store : Store} {row : List (WrittenPart × Token)} {phrase other : Option Text}
  {keeps : Token → Bool}

/-- The phrase after a row of values, of which some are kept. -/
def rowPhrase (keeps : Token → Bool) (store : Store) (phrase : Option Text) :
    List (WrittenPart × Token) → Option Text
  | [] => phrase
  | (part, token) :: row =>
    rowPhrase keeps store (Phrase.extend phrase (part.value.rendered store ++ part.sign)
      (keeps token) part.comma) row

/-- Where nothing is left out `rowPhrase` is `Phrase.ofParts`, the latest part first, with each
comma in the part that it stands behind (`Phrase.ofParts_comma`). -/
lemma rowPhrase_of_kept (kept : ∀ entry ∈ row, keeps entry.2 = true) (parts : List Text) :
    rowPhrase keeps store (Phrase.ofParts parts) row =
      Phrase.ofParts ((row.map (·.1.rendered store)).reverse ++ parts) := by
  induction row generalizing parts with
  | nil => rfl
  | cons entry row ih =>
    obtain ⟨here, later⟩ := List.forall_mem_cons.1 kept
    obtain ⟨part, token⟩ := entry
    have extended : Phrase.extend (Phrase.ofParts parts) (part.value.rendered store ++ part.sign)
        (keeps token) part.comma = Phrase.ofParts (part.rendered store :: parts) := by
      rw [here, WrittenPart.rendered, ← List.append_assoc]
      unfold WrittenPart.tail
      cases part.comma with
      | false => simp [Phrase.extend, Phrase.ofParts_cons]
      | true => simp only [Phrase.extend, if_true, ← Phrase.ofParts_cons, Phrase.ofParts_comma]
    rw [rowPhrase, extended, ih later]
    simp

lemma room_rowPhrase_le {k : Nat} (less : Phrase.room phrase + k ≤ Phrase.room other) :
    Phrase.room (rowPhrase keeps store phrase row) + k ≤
      Phrase.room (rowPhrase (fun _ => true) store other row) := by
  induction row generalizing phrase other with
  | nil => exact less
  | cons entry row ih => exact ih (Phrase.room_extend_le less)

/-- By the length alone, since a comparison of texts would have to exclude that later values make up
for the one that is missing: `room_extend_lt` at that value, and `room_rowPhrase_le` for the
others. -/
theorem room_rowPhrase_lt (less : Phrase.room phrase ≤ Phrase.room other)
    (lost : ∃ entry ∈ row, keeps entry.2 = false) :
    Phrase.room (rowPhrase keeps store phrase row) + 1 ≤
      Phrase.room (rowPhrase (fun _ => true) store other row) := by
  induction row generalizing phrase other with
  | nil => simp at lost
  | cons entry row ih =>
    obtain ⟨part, token⟩ := entry
    by_cases here : keeps token = false
    · rw [rowPhrase, rowPhrase, here]
      exact room_rowPhrase_le (Phrase.room_extend_lt less)
    · obtain ⟨entry, mem, gone⟩ := lost
      rcases List.mem_cons.1 mem with rfl | mem
      · exact absurd gone here
      · exact ih (Phrase.room_extend_le (k := 0) less) ⟨entry, mem, gone⟩

/-- `rowPhrase_of_kept` in one direction; in the other a value that is not kept would make the
phrase shorter than itself (`room_rowPhrase_lt`). -/
lemma rowPhrase_eq_iff : rowPhrase keeps store none row =
    Phrase.ofParts (row.map (·.1.rendered store)).reverse ↔
      ∀ entry ∈ row, keeps entry.2 = true := by
  have whole : rowPhrase (fun _ => true) store none row =
      Phrase.ofParts (row.map (·.1.rendered store)).reverse := by
    have all := @rowPhrase_of_kept store row (fun _ => true) (fun _ _ => rfl) []
    rwa [List.append_nil] at all
  constructor
  · intro same entry mem
    by_contra gone
    have shorter := @room_rowPhrase_lt store row none none keeps (Nat.le_refl _)
      ⟨entry, mem, Bool.eq_false_iff.2 gone⟩
    rw [same, whole] at shorter
    omega
  · intro kept
    have all := @rowPhrase_of_kept store row keeps kept []
    rwa [List.append_nil] at all

end Lexer

/-! ## Words in a definition -/

namespace Token

variable {prior : List Token} {word name : Text}

/-- What a bare word can be read as: a suffix, a value, a name or a property. -/
def OfWord (word : Text) (token : Token) : Prop :=
  token = .identifier word ∨ token = .value (.text word) ∨ token = .variable word ∨
    token = .property word

lemma ofWord_classify (prior : List Token) (free : word ∉ Vocabulary.keywords) :
    OfWord word (classify prior word) := by
  rw [classify, if_neg free]
  split
  · exact .inl rfl
  split
  · exact .inr (.inl rfl)
  split
  · exact .inr (.inr (.inl rfl))
  split
  · exact .inr (.inr (.inr rfl))
  · exact .inr (.inr (.inl rfl))

/-- The tokens read so far, the last one first, are those of a definition up to its values. -/
def InDefinition (name : Text) (prior : List Token) : Prop :=
  ∃ body, prior = body ++ Lexer.definitionStart name ∧ ∀ token ∈ body, token.isKeyword = false

lemma InDefinition.append (inside : InDefinition name prior) {more : List Token}
    (free : ∀ token ∈ more, token.isKeyword = false) : InDefinition name (more ++ prior) := by
  obtain ⟨body, rfl, plain⟩ := inside
  refine ⟨more ++ body, by rw [List.append_assoc], fun token mem => ?_⟩
  exact (List.mem_append.1 mem).elim (free token) (plain token)

/-- `Token.awaitsProperty` looks at the first token behind the last keyword, which in a definition
is the name and never a property. -/
lemma InDefinition.awaitsProperty (inside : InDefinition name prior) :
    awaitsProperty prior = true := by
  obtain ⟨body, rfl, plain⟩ := inside
  have run : (body ++ Lexer.definitionStart name).takeWhile (!isKeyword ·) =
      body ++ [.equals, .variable name] := by
    rw [List.takeWhile_append_of_pos (by simpa using plain)]
    rfl
  have keyword : (body ++ Lexer.definitionStart name).any isKeyword = true := by
    simp [Lexer.definitionStart, isKeyword]
  rw [Token.awaitsProperty, keyword, run]
  simp [isProperty]

lemma InDefinition.head_not_isKeyword (inside : InDefinition name prior) :
    ∀ token ∈ prior.head?, token.isKeyword = false := by
  obtain ⟨body, rfl, plain⟩ := inside
  cases body with
  | nil =>
    rintro token ⟨⟩
    rfl
  | cons first body =>
    rintro token ⟨⟩
    exact plain first List.mem_cons_self

/-- `Token.classify` with what it asks of the tokens before the word settled: no keyword stands just
before it (`head_not_isKeyword`), and `awaitsProperty` holds all along. -/
lemma InDefinition.classify (inside : InDefinition name prior)
    (free : word ∉ Vocabulary.keywords) :
    Token.classify prior word =
      if word ∈ Vocabulary.identifiers ∧ (statementProperty? prior).any (expands · word) then
        .identifier word
      else if word ∈ Vocabulary.valueKeywords then .value (.text word)
      else if word ∈ Vocabulary.properties then .property word
      else .variable word := by
  have first := inside.head_not_isKeyword
  have follows : followsKeyword prior = false := by
    unfold followsKeyword
    cases head : prior.head? with
    | none => rfl
    | some token => exact first token head
  have other : prior.head? ≠ some (.keyword "VAR") := fun head => by
    simpa [isKeyword] using first _ head
  rw [Token.classify, if_neg free, follows, if_neg other, inside.awaitsProperty]
  simp

/-- Such a word is a suffix of a property before it or a property itself, by
`InDefinition.classify`, and `isKept` is false of both. -/
lemma InDefinition.not_isKept (inside : InDefinition name prior)
    (free : word ∉ Vocabulary.keywords) (property : word ∈ Vocabulary.properties)
    (noValue : word ∉ Vocabulary.valueKeywords) : (Token.classify prior word).isKept = false := by
  rw [inside.classify free, if_neg noValue, if_pos property]
  split <;> rfl

lemma statementProperty?_eq_none (noProperty : ∀ token ∈ prior, token.isProperty = false) :
    statementProperty? prior = none := by
  unfold statementProperty?
  split
  · rename_i property rest shape
    have mem : .property property ∈ prior :=
      (List.dropWhile_sublist isIdentifier).subset (shape ▸ List.mem_cons_self)
    exact absurd (noProperty _ mem) (by simp [isProperty])
  · rfl

lemma not_isProperty_of_isKept {token : Token} (kept : token.isKept = true) :
    token.isProperty = false := by
  cases token with
  | property => simp [Token.isKept] at kept
  | _ => rfl

/-- A suffix needs a property before it (`statementProperty?_eq_none`), and a property that is no
value is what `plain` excludes; values and variables are left. -/
lemma InDefinition.isKept (inside : InDefinition name prior)
    (free : word ∉ Vocabulary.keywords)
    (plain : word ∈ Vocabulary.properties → word ∈ Vocabulary.valueKeywords)
    (noProperty : ∀ token ∈ prior, token.isProperty = false) :
    (Token.classify prior word).isKept = true := by
  rw [inside.classify free, statementProperty?_eq_none noProperty, if_neg (by simp)]
  split
  · rfl
  · rename_i noValue
    rw [if_neg (mt plain noValue)]
    rfl

end Token

/-! ## Tokens of values -/

/-- A token that can stand among the values of a definition. -/
def Token.isDefinitionPart : Token → Bool
  | .property _ | .identifier _ => true
  | token => token.isValuePart

/-- Of the parts of a definition `Statement.effect` sees none before it reads the slots, so that the
one keyword of the line is the one at its start. -/
lemma Token.blind_of_isDefinitionPart {token : Token} (part : token.isDefinitionPart = true) :
    token.isKeyword = false ∧ Statement.keyword? token = none ∧
      Statement.comment? token = none ∧ Statement.unknown? token = none ∧
      token.inline = true := by
  cases token with
  | symbol kind char =>
    cases kind with
    | comma => exact ⟨rfl, rfl, rfl, rfl, rfl⟩
    | _ => simp [isDefinitionPart, isValuePart] at part
  | value | «variable» | variableRef | valueType | property | identifier =>
    exact ⟨rfl, rfl, rfl, rfl, rfl⟩
  | _ => simp [isDefinitionPart, isValuePart] at part

namespace Lexer

variable {prior : List Token} {part : WrittenPart} {token : Token}
  {row : List (WrittenPart × Token)} {name : Text}

/-- A value with a token that it can be read as. -/
structure Reads (entry : WrittenPart × Token) : Prop where
  formed : entry.1.WellFormed
  shape : ∃ wordToken : Text → Token,
    (∀ word ∉ Vocabulary.keywords, Token.OfWord word (wordToken word)) ∧
      entry.1.value.ReadAs wordToken entry.2

lemma reads_of_classify (formed : part.WellFormed)
    (shape : part.value.ReadAs (Token.classify prior) token) : Reads (part, token) :=
  ⟨formed, _, fun _ free => Token.ofWord_classify prior free, shape⟩

lemma reads_of_literal (formed : part.WellFormed)
    (shape : part.value.ReadAs (.value ∘ .text) token) : Reads (part, token) :=
  ⟨formed, _, fun _ _ => .inr (.inl rfl), shape⟩

/-- `ReadAs` up to what the slots see: numbers, measures, colours and words that are values all come
as one literal, the only kind that is split. -/
lemma Reads.cases (reads : Reads (part, token)) :
    (∃ literal, token = .value literal) ∨
      (∃ word, part.value = .word word ∧
        (token = .identifier word ∨ token = .variable word ∨ token = .property word)) ∨
      ∃ inside, part.value = .reference inside ∧ token = .variableRef (Text.trim inside) none := by
  obtain ⟨formed, wordToken, words, shape⟩ := reads
  have valued := formed.value
  dsimp only at shape valued
  generalize part.value = value at shape valued
  cases shape with
  | integer | measure | color => exact .inl ⟨_, rfl⟩
  | reference inside => exact .inr (.inr ⟨inside, rfl, rfl⟩)
  | word text =>
    rcases words text valued.2.1 with same | same | same | same
    · exact .inr (.inl ⟨text, rfl, .inl same⟩)
    · exact .inl ⟨_, same⟩
    · exact .inr (.inl ⟨text, rfl, .inr (.inl same)⟩)
    · exact .inr (.inl ⟨text, rfl, .inr (.inr same)⟩)

lemma Reads.isDefinitionPart (reads : Reads (part, token)) : token.isDefinitionPart = true := by
  rcases reads.cases with ⟨literal, rfl⟩ | ⟨word, -, rfl | rfl | rfl⟩ | ⟨inside, -, rfl⟩ <;> rfl

lemma Reads.ne_valueType (reads : Reads (part, token)) (unit : Text) :
    token ≠ .valueType unit := by
  rcases reads.cases with ⟨literal, rfl⟩ | ⟨word, -, rfl | rfl | rfl⟩ | ⟨inside, -, rfl⟩ <;> simp

/-- `Slot.read` splits a number from its unit and `Slot.render` puts them together again
(`Slot.render_of_number`); only the sign of zero is lost.  A percent sign is a token of its own, and
stands behind a number without a unit (`WrittenPart.WellFormed`). -/
lemma Reads.render_literalSlot (store : Store) {literal : Scalar} {slot : Slot}
    (reads : Reads (part, .value literal)) (split : Assignment.literalSlot literal = .ok slot) :
    slot.render none = part.value.rendered store ∧ (part.percent = true → slot.unit = none) := by
  obtain ⟨⟨valued, bare⟩, wordToken, words, shape⟩ := reads
  dsimp only at shape valued bare
  generalize part.value = value at shape valued bare
  generalize same : Token.value literal = token at shape
  cases shape with
  | @integer sign digits value read =>
    obtain ⟨parts, canonical⟩ := valued
    obtain ⟨n, rfl⟩ := canonical rfl
    obtain rfl : literal = .integer value := by simpa using same
    obtain rfl := Except.ok.inj split
    refine ⟨?_, fun _ => rfl⟩
    have text := Numeral.ofInt_of_integer parts.signed read
    simp [Slot.render, Scalar.toText, WrittenValue.rendered, text, Numeral.ofNat_eq_zero_iff]
  | @measure sign digits fraction unit =>
    obtain ⟨parts, canonical⟩ := valued
    obtain rfl : literal = .text (sign ++ (digits ++ (fraction ++ unit))) := by simpa using same
    obtain ⟨whole, unitless⟩ := Slot.render_of_number parts canonical
      (Assignment.literalSlot_text.1 split)
    refine ⟨whole, fun percent => unitless ?_⟩
    obtain ⟨_, _, _, number⟩ := bare percent
    exact (WrittenValue.number.inj number).2.2.2
  | color digits =>
    obtain rfl : literal = .text ('#' :: digits) := by simpa using same
    rw [Assignment.literalSlot_text, Slot.read_color] at split
    obtain rfl := Except.ok.inj split
    exact ⟨Assignment.render_text _, fun _ => rfl⟩
  | word text =>
    obtain ⟨word, free, -⟩ := valued
    obtain rfl : literal = .text text := by
      rcases words text free with other | other | other | other
      · simp [other] at same
      · simpa [other] using same
      · simp [other] at same
      · simp [other] at same
    rw [Assignment.literalSlot_text, Slot.read_word word] at split
    obtain rfl := Except.ok.inj split
    exact ⟨Assignment.render_text _, fun _ => rfl⟩
  | reference inside => simp at same

/-- A percent sign and a comma are parts of a definition and no properties, so that
`inDefinition_next` and `noProperty_next` may pass over them. -/
lemma suffix_shape (part : WrittenPart) : ∀ token ∈ part.suffix,
    token.isDefinitionPart = true ∧ token.isProperty = false := by
  unfold WrittenPart.suffix
  cases part.percent <;> cases part.comma <;>
    simp [Token.isDefinitionPart, Token.isValuePart, Token.isProperty]

/-! ## Rows of values -/

lemma isDefinitionPart_of_mem (reads : ∀ entry ∈ row, Reads entry) :
    ∀ token ∈ rowTokens row, token.isDefinitionPart = true := by
  intro token mem
  obtain ⟨⟨part, first⟩, entry, mem⟩ := List.mem_flatMap.1 mem
  rcases List.mem_cons.1 mem with rfl | mem
  · exact (reads _ entry).isDefinitionPart
  · exact (suffix_shape part token mem).1

lemma inDefinition_next (inside : Token.InDefinition name prior) (reads : Reads (part, token)) :
    Token.InDefinition name (part.suffix.reverse ++ token :: prior) := by
  have next : Token.InDefinition name ([token] ++ prior) :=
    inside.append (by simpa using (Token.blind_of_isDefinitionPart reads.isDefinitionPart).1)
  refine next.append fun token mem => ?_
  exact (Token.blind_of_isDefinitionPart (suffix_shape part token (List.mem_reverse.1 mem)).1).1

/-- `ReadAll` reads each value behind those before it, and `inDefinition_next` keeps
`Token.InDefinition` from one to the next. -/
lemma exists_prior_of_mem (inside : Token.InDefinition name prior)
    (formed : ∀ entry ∈ row, entry.1.WellFormed) (shapes : ReadAll prior row) :
    ∀ entry ∈ row, ∃ earlier, Token.InDefinition name earlier ∧
      entry.1.value.ReadAs (Token.classify earlier) entry.2 := by
  induction row generalizing prior with
  | nil => simp
  | cons entry row ih =>
    obtain ⟨here, later⟩ := List.forall_mem_cons.1 formed
    obtain ⟨shape, shapes⟩ := shapes
    refine List.forall_mem_cons.2 ⟨⟨prior, inside, shape⟩, ?_⟩
    exact ih (inDefinition_next inside (reads_of_classify here shape)) later shapes

lemma noProperty_next (kept : token.isKept = true)
    (noProperty : ∀ other ∈ prior, other.isProperty = false) :
    ∀ other ∈ part.suffix.reverse ++ token :: prior, other.isProperty = false := by
  intro other mem
  rcases List.mem_append.1 mem with mem | mem
  · exact (suffix_shape part other (List.mem_reverse.1 mem)).2
  rcases List.mem_cons.1 mem with rfl | mem
  · exact Token.not_isProperty_of_isKept kept
  · exact noProperty other mem

/-- Induction on the row.  A value that is kept is no property (`noProperty_next`), so that the next
one is read with none before it, as `Token.InDefinition.isKept` asks. -/
lemma isKept_of_plain (inside : Token.InDefinition name prior)
    (noProperty : ∀ token ∈ prior, token.isProperty = false)
    (formed : ∀ entry ∈ row, entry.1.WellFormed) (shapes : ReadAll prior row)
    (plain : ∀ entry ∈ row, ∀ word, entry.1.value = .word word →
      word ∈ Vocabulary.properties → word ∈ Vocabulary.valueKeywords) :
    ∀ entry ∈ row, entry.2.isKept = true := by
  induction row generalizing prior with
  | nil => simp
  | cons entry row ih =>
    obtain ⟨part, token⟩ := entry
    obtain ⟨here, later⟩ := List.forall_mem_cons.1 formed
    obtain ⟨plainHere, plainLater⟩ := List.forall_mem_cons.1 plain
    obtain ⟨shape, shapes⟩ := shapes
    have next := inDefinition_next inside (reads_of_classify here shape)
    have kept : token.isKept = true := by
      have valued := here.value
      generalize part.value = value at shape valued plainHere
      cases shape with
      | word text => exact inside.isKept valued.2.1 (plainHere text rfl) noProperty
      | _ => rfl
    exact List.forall_mem_cons.2
      ⟨kept, ih next (noProperty_next kept noProperty) later shapes plainLater⟩

/-- `isKept_of_plain` in one direction.  In the other `Token.InDefinition.not_isKept` applies at any
place of the row, whatever was lost before. -/
lemma isKept_row_iff (inside : Token.InDefinition name prior)
    (noProperty : ∀ token ∈ prior, token.isProperty = false)
    (formed : ∀ entry ∈ row, entry.1.WellFormed) (shapes : ReadAll prior row) :
    (∀ entry ∈ row, entry.2.isKept = true) ↔
      ∀ entry ∈ row, ∀ word, entry.1.value = .word word →
        word ∈ Vocabulary.properties → word ∈ Vocabulary.valueKeywords := by
  constructor
  · intro kept entry mem word same property
    by_contra noValue
    obtain ⟨earlier, within, shape⟩ := exists_prior_of_mem inside formed shapes entry mem
    have free := (formed entry mem).value
    have held := kept entry mem
    generalize entry.2 = token at shape held
    rw [same] at shape free
    cases shape with
    | word =>
      have lost := within.not_isKept free.2.1 property noValue
      exact Bool.false_ne_true (lost.symm.trans held)
  · exact isKept_of_plain inside noProperty formed shapes

end Lexer

/-! ## The slots of a row -/

namespace Assignment

open Lexer (Reads rowTokens rowPhrase)

variable {store : Store} {slots more : List Slot} {part : WrittenPart} {token : Token}
  {following : Option Token} {row : List (WrittenPart × Token)}

/-- A literal is split before it is bound, which is why it needs `Reads.render_literalSlot`; words
and references go by `step_phrase`, like those of any definition. -/
theorem step_reads (filled : store.Filled) (reads : Reads (part, token))
    (unit : Gathered.unitOf following = part.sign)
    (marked : ∀ unit, following = some (.valueType unit) → part.percent = true)
    (taken : step store slots token following = .ok more) :
    Phrase.ofParts (parts more) =
      if token.isKept then
        Phrase.add (Phrase.ofParts (parts slots)) (part.value.rendered store ++ part.sign)
      else Phrase.ofParts (parts slots) := by
  rcases reads.cases with ⟨literal, rfl⟩ | ⟨word, written, shape⟩ | ⟨inside, written, rfl⟩
  · obtain ⟨slot, split, rfl⟩ := map_eq_ok_iff.1 taken
    obtain ⟨whole, unitless⟩ := reads.render_literalSlot store split
    have bare : ∀ unit, following = some (.valueType unit) → slot.unit = none :=
      fun unit follows => unitless (marked unit follows)
    rw [parts, List.map_cons, render_unit bare, whole, unit]
    exact Phrase.ofParts_cons _ _
  · have kept := step_phrase filled (by rcases shape with rfl | rfl | rfl <;> trivial) taken
    rw [kept, reads.formed.sign_eq_nil (by simp [written]), written]
    rcases shape with rfl | rfl | rfl <;>
      simp [Phrase.step, Phrase.part?, Token.isKept, WrittenValue.rendered, WrittenValue.text]
  · have kept := step_phrase filled (by trivial) taken
    rw [kept, reads.formed.sign_eq_nil (by simp [written]), written]
    cases bound : store.slots? (Text.trim inside) with
    | none => simp [step, bound] at taken
    | some copied =>
      simp [Phrase.step, Phrase.part?, Token.isKept, WrittenValue.rendered, Store.get?, bound]

/-- `Assignment.step` has used the percent sign with the value before it, and passes over it when
its turn comes. -/
lemma slotsFrom_suffix (filled : store.Filled) {rest : List Token}
    (taken : slotsFrom store slots (part.suffix ++ rest) = .ok more) :
    ∃ between, slotsFrom store between rest = .ok more ∧
      Phrase.ofParts (parts between) =
        if part.comma then Phrase.close (Phrase.ofParts (parts slots))
        else Phrase.ofParts (parts slots) := by
  have behind : slotsFrom store slots
      ((if part.comma then [.symbol .comma []] else []) ++ rest) = .ok more := by
    unfold WrittenPart.suffix at taken
    cases percent : part.percent with
    | false => simpa [percent] using taken
    | true =>
      rw [percent, if_pos rfl] at taken
      exact taken
  cases comma : part.comma with
  | false =>
    rw [comma] at behind
    exact ⟨slots, behind, rfl⟩
  | true =>
    rw [comma] at behind
    obtain ⟨between, closed, later⟩ := bind_eq_ok_iff.1 behind
    exact ⟨between, later, step_phrase filled (by trivial) closed⟩

/-- With `part.sign` for the token that follows, `step_reads` need not look at the tokens behind the
value; a part without a sign may stand last or before any other value, which is no unit
(`Reads.ne_valueType`). -/
lemma unitOf_suffix (part : WrittenPart) {rest : List Token}
    (ends : ∀ unit, rest.head? ≠ some (.valueType unit)) :
    Gathered.unitOf (part.suffix ++ rest).head? = part.sign ∧
      ∀ unit, (part.suffix ++ rest).head? = some (.valueType unit) → part.percent = true := by
  have other : Gathered.unitOf rest.head? = [] := by
    unfold Gathered.unitOf
    split
    · rename_i unit follows
      exact absurd follows (ends unit)
    · rfl
  unfold WrittenPart.suffix WrittenPart.sign
  cases part.percent with
  | true => exact ⟨rfl, fun _ _ => rfl⟩
  | false =>
    cases part.comma with
    | true => exact ⟨rfl, by simp⟩
    | false => exact ⟨other, fun unit follows => absurd follows (ends unit)⟩

/-- `step_reads` and `slotsFrom_suffix` for one value after the other, which are the two steps of
`Phrase.extend`. -/
lemma slotsFrom_row (filled : store.Filled) (reads : ∀ entry ∈ row, Reads entry)
    (taken : slotsFrom store slots (rowTokens row) = .ok more) :
    Phrase.ofParts (parts more) =
      rowPhrase Token.isKept store (Phrase.ofParts (parts slots)) row := by
  induction row generalizing slots with
  | nil =>
    obtain rfl := Except.ok.inj taken
    rfl
  | cons entry row ih =>
    obtain ⟨part, token⟩ := entry
    obtain ⟨here, later⟩ := List.forall_mem_cons.1 reads
    have ends : ∀ unit, (rowTokens row).head? ≠ some (.valueType unit) := by
      cases row with
      | nil => simp [rowTokens]
      | cons entry row =>
        intro unit follows
        exact (later entry List.mem_cons_self).ne_valueType unit (Option.some.inj follows)
    obtain ⟨unit, marked⟩ := unitOf_suffix part ends
    have taken : slotsFrom store slots (token :: (part.suffix ++ rowTokens row)) = .ok more := taken
    obtain ⟨between, first, rest⟩ := bind_eq_ok_iff.1 taken
    obtain ⟨next, rest, behind⟩ := slotsFrom_suffix filled rest
    rw [ih later rest, behind, step_reads filled here unit marked first]
    rfl

end Assignment

/-! ## The law -/

namespace Program

variable {store final : Store} {name : Text} {first : WrittenPart} {later : List WrittenPart}
  {tokens : List Token} {records : List Record}

/-- `parse_definition` leaves what stands behind the equals sign to `Assignment.slotsFrom`, if none
of it has a say in the line as a whole (`Token.blind_of_isDefinitionPart`). -/
lemma parse_row {row : List (WrittenPart × Token)} (filled : store.Filled)
    (reads : ∀ entry ∈ row, Lexer.Reads entry)
    (parsed : parse store ((Lexer.definitionStart name).reverse ++ Lexer.rowTokens row) =
      (.ok records, final)) :
    ∃ text, final.get? name = some text ∧
      Lexer.rowPhrase Token.isKept store none row = some text := by
  have blind := fun token mem =>
    Token.blind_of_isDefinitionPart (Lexer.isDefinitionPart_of_mem reads token mem)
  obtain ⟨slots, ran, given, -, rfl⟩ := (parse_definition
    (List.filterMap_eq_nil_iff.2 fun token mem => (blind token mem).2.1)
    (List.filterMap_eq_nil_iff.2 fun token mem => (blind token mem).2.2.1)
    (List.findSome?_eq_none_iff.2 fun token mem => (blind token mem).2.2.2.1)
    (fun token mem => (blind token mem).2.2.2.2)).1 parsed
  have rendered : Assignment.parts slots ≠ [] := by simpa [Assignment.parts] using given
  have phrase := Assignment.slotsFrom_row filled reads ran
  rw [Phrase.ofParts, if_neg rendered] at phrase
  refine ⟨_, ?_, phrase.symm⟩
  rw [Store.get?, Store.slots?_bind, if_pos rfl, Assignment.parts, ← List.map_reverse]
  rfl

/-- After any program (`filled_parse`) a definition binds its name to a text.  The text consists of
all its values, in order, exactly when no word after the first value names a property without being
a value in its own right (`Lexer.isKept_row_iff`).  The first value is exempt, since a word behind
the equals sign is always a literal. -/
theorem parse_written_definition (filled : store.Filled) (named : Lexer.IsWord name)
    (free : name ∉ Vocabulary.keywords) (formed : ∀ part ∈ first :: later, part.WellFormed)
    (read : Lexer.tokens (Lexer.definition name (first :: later)) = .ok tokens)
    (parsed : parse store tokens = (.ok records, final)) :
    ∃ text, final.get? name = some text ∧
      (text = Text.join " " ((first :: later).map (·.rendered store)) ↔
        ∀ part ∈ later, ∀ word, part.value = .word word →
          word ∈ Vocabulary.properties → word ∈ Vocabulary.valueKeywords) := by
  obtain ⟨token, row, shape, rfl, shapes, rfl⟩ := Lexer.tokens_definition named free formed read
  obtain ⟨here, others⟩ := List.forall_mem_cons.1 formed
  have others : ∀ entry ∈ row, entry.1.WellFormed := List.forall_mem_map.1 others
  have literal := Lexer.reads_of_literal here shape
  have start : Token.InDefinition name (Lexer.definitionStart name) := ⟨[], rfl, by simp⟩
  have inside := Lexer.inDefinition_next start literal
  have kept : token.isKept = true := by
    generalize first.value = value at shape
    cases shape <;> rfl
  have noProperty : ∀ other ∈ first.suffix.reverse ++ token :: Lexer.definitionStart name,
      other.isProperty = false :=
    Lexer.noProperty_next kept (by simp [Lexer.definitionStart, Token.isProperty, Token.equals])
  have reads : ∀ entry ∈ (first, token) :: row, Lexer.Reads entry := by
    refine List.forall_mem_cons.2 ⟨literal, fun entry mem => ?_⟩
    obtain ⟨earlier, -, shape⟩ := Lexer.exists_prior_of_mem inside others shapes entry mem
    exact Lexer.reads_of_classify (others entry mem) shape
  obtain ⟨text, bound, phrase⟩ := parse_row filled reads parsed
  refine ⟨text, bound, ?_⟩
  let entries := (first, token) :: row
  have whole : Phrase.ofParts (entries.map (·.1.rendered store)).reverse =
      some (Text.join " " ((first :: row.map Prod.fst).map (·.rendered store))) := by
    rw [Phrase.ofParts, if_neg (by simp [entries]), List.reverse_reverse, List.map_cons,
      List.map_cons, List.map_map]
    rfl
  calc text = Text.join " " ((first :: row.map Prod.fst).map (·.rendered store))
      ↔ Lexer.rowPhrase Token.isKept store none entries =
          Phrase.ofParts (entries.map (·.1.rendered store)).reverse := by
        rw [whole, phrase, Option.some.injEq]
    _ ↔ ∀ entry ∈ entries, entry.2.isKept = true := Lexer.rowPhrase_eq_iff
    _ ↔ ∀ entry ∈ row, entry.2.isKept = true := by
        rw [List.forall_mem_cons, and_iff_right kept]
    _ ↔ _ := by
        rw [Lexer.isKept_row_iff inside noProperty others shapes, List.forall_mem_map]

/-! ## A list that is kept and a list that is not -/

def oneGap : Store := ⟨[("gap", [⟨.integer 4, some "px"⟩])]⟩

/-- A measure with a comma, which is the first value of `pads`. -/
def firstPad : WrittenPart := ⟨.number "-" "2" ".5" "em", false, true⟩

/-- A reference, a percentage, a property that is a value as well, a name and a colour. -/
def laterPads : List WrittenPart :=
  [⟨.reference "gap ", false, false⟩, ⟨.number [] "50" [] [], true, true⟩,
    ⟨.word "left", false, false⟩, ⟨.word "wide", false, false⟩, ⟨.color "a0b", false, false⟩]

def padTokens : List Token :=
  [.keyword "VAR", .variable "pads", .equals, .value (.text "-2.5em"), .symbol .comma [],
    .variableRef "gap" none, .value (.integer 50), .valueType "%", .symbol .comma [],
    .value (.text "left"), .variable "wide", .value (.text "#a0b")]

theorem parse_written_definition_pads :
    ∃ final, oneGap.Filled ∧ (∀ part ∈ firstPad :: laterPads, part.WellFormed) ∧
      Lexer.definition "pads" (firstPad :: laterPads) =
        "VAR pads = -2.5em, " ++ Text.braced "gap " ++ " 50%, left wide #a0b" ∧
      Lexer.tokens (Lexer.definition "pads" (firstPad :: laterPads)) = .ok padTokens ∧
      parse oneGap padTokens = (.ok [], final) ∧
      final.get? "pads" = some "-2.5em, 4px 50%, left wide #a0b".toList := by
  have filled : oneGap.Filled :=
    filled_parse Store.filled_empty (rfl : parse .empty [.keyword "VAR", .variable "gap", .equals,
      .value (.text "4px")] = (.ok [], oneGap))
  have named : Lexer.IsWord "pads" := ⟨by simp; decide, by decide, by decide⟩
  have measure : Lexer.IsNumber "-" "2" ".5" "em" := by
    have fraction : Lexer.IsFraction ".5" :=
      .inr ⟨'.', "5", rfl, .inl rfl, by decide, List.all_eq_true.1 (by decide)⟩
    exact ⟨.inr rfl, List.all_eq_true.1 (by decide), fraction, List.all_eq_true.1 (by decide),
      .inl (by decide)⟩
  have percentage : Lexer.IsNumber [] "50" [] [] :=
    ⟨.inl rfl, List.all_eq_true.1 (by decide), .inl rfl, by simp, .inl (by decide)⟩
  have words : ∀ word ∈ ["left".toList, "wide".toList], (WrittenValue.word word).WellFormed := by
    simp only [List.forall_mem_cons]
    refine ⟨⟨⟨List.all_eq_true.1 (by decide), by decide, by decide⟩, by decide, by decide⟩,
      ⟨⟨List.all_eq_true.1 (by decide), by decide, by decide⟩, by decide, by decide⟩, by simp⟩
  have formed : ∀ part ∈ firstPad :: laterPads, part.WellFormed := by
    simp only [laterPads, List.forall_mem_cons]
    refine ⟨⟨⟨measure, by simp⟩, by simp [firstPad]⟩, ⟨⟨by decide, by decide⟩, by simp⟩,
      ⟨⟨percentage, fun _ => ⟨50, rfl⟩⟩, fun _ => ⟨_, _, _, rfl⟩⟩,
      ⟨words _ (by simp), by simp⟩, ⟨words _ (by simp), by simp⟩,
      ⟨⟨by decide, List.all_eq_true.1 (by decide)⟩, by simp⟩, by simp⟩
  have read : Lexer.tokens (Lexer.definition "pads" (firstPad :: laterPads)) = .ok padTokens := by
    decide +kernel
  have parsed : parse oneGap padTokens = (.ok [], oneGap.bind "pads"
      [⟨.text "-2.5em,", none⟩, ⟨.integer 4, some "px"⟩, ⟨.text "50%,", none⟩,
        ⟨.text "left", none⟩, ⟨.text "wide", none⟩, ⟨.text "#a0b", none⟩]) := rfl
  obtain ⟨text, bound, whole⟩ :=
    parse_written_definition filled named (by decide) formed read parsed
  have plain : ∀ part ∈ laterPads, ∀ word, part.value = .word word →
      word ∈ Vocabulary.properties → word ∈ Vocabulary.valueKeywords := by
    simp only [laterPads, List.forall_mem_cons]
    refine ⟨by simp, by simp, ?_, ?_, by simp, by simp⟩
    · rintro word ⟨⟩
      decide
    · rintro word ⟨⟩
      decide +kernel
  refine ⟨_, filled, formed, by decide, read, parsed, bound.trans ?_⟩
  rw [whole.2 plain]
  rfl

/-- A property at the end of a list is lost, and the definition is accepted. -/
theorem parse_definition_linearOpacity :
    ∃ tokens final, Lexer.tokens "VAR fade = linear opacity" = .ok tokens ∧
      parse .empty tokens = (.ok [], final) ∧ final.get? "fade" = some "linear".toList := by
  refine ⟨[.keyword "VAR", .variable "fade", .equals, .value (.text "linear"),
    .property "opacity"], Store.empty.bind "fade" [⟨.text "linear", none⟩], ?_, rfl, rfl⟩
  decide +kernel

end Program

end UtilityCss
