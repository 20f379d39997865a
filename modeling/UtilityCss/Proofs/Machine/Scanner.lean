import UtilityCss.Machine.Scanner
import UtilityCss.Proofs.Machine.Cursor
import UtilityCss.Proofs.Token.Stream

/-!
# The scanner reads what the lexer reads

Each reader of `Scanner` follows its counterpart in `Lexer` (`Scan.Follows`), on every text that is
an end of the source.  The lemmas of the readers are read off their definitions one operation after
the other; what a reader looked at before it moved is what makes the operation succeed.  Three of
them need more than that.  A text is read as an integer only where a number begins, and there
`digits_or_point` finds its digits (`readNumber_follows`).  The depth of parentheses is counted from
outside the first one and not from inside (`passArgument_before`).  And the classes in the table of
characters are all structural (`symbolKind?_cases`).

A step of the scanner is then a step of the lexer, but for a comment after an equals sign, which the
scanner refuses one step later (`step_run`, `step_comment`).  Hence `tokens_eq`: the scanner has the
tokens of the lexer and its errors, with the positions that its cursor kept; it crashes where an
integer has too many digits, and nowhere else.
-/

namespace UtilityCss.Scanner

open Scan Cursor Lexer

variable {source rest : Text} {c : Char} {prior : List Token} {α β : Type}

lemma suffix_of_cons (suffix : c :: rest <:+ source) : rest <:+ source :=
  (List.suffix_cons c rest).trans suffix

/-! ## Looking ahead -/

lemma getElem?_skip (c : Char) (text : Text) (index : Nat) :
    (Text.skip c text)[index]? = text[(if text[0]? = some c then 1 else 0) + index]? := by
  cases text with
  | nil => simp [Text.skip]
  | cons d rest => by_cases same : d = c <;> simp [Text.skip, same, Nat.add_comm]

lemma atNumber_run (suffix : rest <:+ source) :
    atNumber.run (before source rest) = .ok (beginsNumber rest, before source rest) := by
  rw [atNumber, run_bind (look_before suffix 0), run_bind (look_before suffix _),
    run_bind (look_before suffix _), run_pure]
  simp only [beginsNumber, List.head?_eq_getElem?, getElem?_skip, Nat.add_zero]
  congr 3
  split <;> split <;> simp_all

/-- Two slashes come next. -/
def Slashes (text : Text) : Prop := text.head? = some '/' ∧ text.tail.head? = some '/'

instance : DecidablePred Slashes := fun text =>
  inferInstanceAs (Decidable (text.head? = some '/' ∧ text.tail.head? = some '/'))

lemma Slashes.exists_eq {text : Text} (slashes : Slashes text) :
    ∃ left, text = '/' :: '/' :: left := by
  obtain ⟨rest, rfl⟩ := List.head?_eq_some_iff.1 slashes.1
  obtain ⟨left, rfl⟩ := List.head?_eq_some_iff.1 slashes.2
  exact ⟨left, rfl⟩

lemma atComment_run (suffix : rest <:+ source) :
    atComment.run (before source rest) = .ok (decide (Slashes rest), before source rest) := by
  rw [atComment, run_bind (look_before suffix 0), run_bind (look_before suffix 1), run_pure]
  rcases rest with _ | ⟨c, _ | ⟨d, rest⟩⟩
  · rfl
  · rfl
  · rfl

/-! ## Readers -/

lemma readComment_follows (suffix : '/' :: '/' :: rest <:+ source) :
    readComment.Follows source ('/' :: '/' :: rest) (.ok (comment rest)) := by
  have behind := suffix_of_cons (suffix_of_cons suffix)
  have body := (skip_suffix '*' rest).trans behind
  rw [Follows, readComment, run_bind (advance_run suffix),
    run_bind (advance_run (suffix_of_cons suffix)), run_bind (accept_before '*' behind),
    run_bind (takeWhile_before _ body), run_pure]
  simp [comment, resume]

lemma advanceBy_run {passed : Text} (suffix : passed ++ rest <:+ source) :
    (advanceBy passed.length).run (before source (passed ++ rest)) =
      .ok ((), before source rest) := by
  induction passed with
  | nil => rfl
  | cons c passed ih =>
    rw [List.cons_append] at suffix ⊢
    rw [List.length_cons, advanceBy, run_bind (advance_run suffix)]
    exact ih (suffix_of_cons suffix)

lemma Edge.ofName?_eq_none {name : Text} :
    Edge.ofName? name = none ↔ name ∉ [Edge.name .start, Edge.name .stop] := by
  simp only [Edge.ofName?, List.mem_cons, List.not_mem_nil, or_false, not_or]
  split
  · simp [*]
  · split <;> simp [*]

lemma readLayerMarker_follows (suffix : layerKeyword ++ rest <:+ source) :
    readLayerMarker.Follows source (layerKeyword ++ rest) (layerMarker rest) := by
  have behind : rest <:+ source := (List.suffix_append _ _).trans suffix
  have gap := (List.dropWhile_suffix isGap).trans behind
  have named := (List.dropWhile_suffix (!isBlank ·)).trans gap
  have gap' := (List.dropWhile_suffix isGap).trans named
  have acted := (List.dropWhile_suffix (!isBlank ·)).trans gap'
  have ended := (List.dropWhile_suffix isGap).trans acted
  rw [Follows, readLayerMarker, run_bind (advanceBy_run suffix),
    run_bind (takeWhile_before _ behind), run_bind (takeWhile_before _ gap),
    run_bind (takeWhile_before _ named), run_bind (takeWhile_before _ gap')]
  simp only [layerMarker]
  split
  · rfl
  split
  · rename_i unknown
    rw [Edge.ofName?_eq_none.2 unknown]
    rfl
  · rename_i known
    obtain ⟨edge, found⟩ := Option.ne_none_iff_exists'.1 (mt Edge.ofName?_eq_none.1 known)
    rw [run_bind (takeWhile_before _ acted), run_bind (accept_before '\n' ended), Scanner.edge,
      found]
    rfl

lemma readBracedName_follows (suffix : c :: rest <:+ source) :
    readBracedName.Follows source (c :: rest) (bracedName rest) := by
  have behind := suffix_of_cons suffix
  have left := (List.dropWhile_suffix fun c => c != '}' && c != '\n').trans behind
  rw [Follows, readBracedName, run_bind (advance_run suffix), run_bind (takeWhile_before _ behind),
    run_bind (look_before left 0)]
  simp only [bracedName]
  cases tail : rest.dropWhile fun c => c != '}' && c != '\n' with
  | nil => rfl
  | cons d tail =>
    by_cases closed : d = '}'
    · subst closed
      rw [if_neg (by simp), run_bind (advance_run (tail ▸ left))]
      rfl
    · rw [if_pos (by simpa using closed)]
      split
      · simp_all
      · rfl

lemma readVariableRef_follows (suffix : c :: rest <:+ source) :
    readVariableRef.Follows source (c :: rest) (variableRef rest) := by
  have named := readBracedName_follows suffix
  have unread := (bracedName_suffix rest).trans (suffix_of_cons suffix)
  rw [Follows, readVariableRef]
  cases braced : bracedName rest with
  | error stop =>
    rw [Follows, braced] at named
    simp only [run_bind_of_error named, variableRef, braced]
    rfl
  | ok pair =>
    obtain ⟨name, left⟩ := pair
    rw [Follows, braced] at named
    rw [braced] at unread
    have tail : left <:+ source := unread
    rw [run_bind named, run_bind (look_before tail 0), ← List.head?_eq_getElem?]
    by_cases percent : left.head? = some '%'
    · obtain ⟨left, rfl⟩ := List.head?_eq_some_iff.1 percent
      rw [if_pos percent, run_bind (advance_run tail), variableRef, braced]
      rfl
    rw [if_neg percent, variableRef_of_ne braced percent]
    cases left with
    | nil => rfl
    | cons d left =>
      by_cases letter : d.isAlpha
      · have given : (d :: left).takeWhile Char.isAlpha ≠ [] := by simp [letter]
        rw [List.head?_cons, Option.any_some, if_pos letter, run_bind (takeWhile_before _ tail),
          if_neg given, ite_not]
        split
        · rfl
        · rfl
      · simp [letter]
        rfl

lemma readMedia_follows (suffix : c :: rest <:+ source) :
    readMedia.Follows source (c :: rest) (media rest) := by
  have behind := suffix_of_cons suffix
  rw [Follows, readMedia, run_bind (advance_run suffix), run_bind (look_before behind 0),
    ← List.head?_eq_getElem?]
  by_cases brace : rest.head? = some '{'
  · obtain ⟨text, rfl⟩ := List.head?_eq_some_iff.1 brace
    rw [if_pos brace]
    exact (readBracedName_follows behind).map Token.mediaVariableRef
  · rw [if_neg brace, run_bind (takeWhile_before _ behind), media_of_ne brace]
    split
    · rfl
    · rfl

lemma readIdentifier_follows (suffix : c :: rest <:+ source) :
    readIdentifier.Follows source (c :: rest) (identifier rest) := by
  rw [Follows, readIdentifier, run_bind (advance_run suffix),
    run_bind (takeWhile_before _ (suffix_of_cons suffix))]
  rw [identifier, ite_not]
  split
  · rfl
  · rfl

/-- One turn of the loop of `passArgument`, with the counter of parentheses as the scanner keeps it,
in an integer that starts at one. -/
lemma passArgument_cons (name : Text) (depth : Int) (suffix : c :: rest <:+ source)
    (sameLine : c ≠ '\n') :
    passArgument name depth (before source (c :: rest)) =
      if c = '(' then passArgument name (depth + 1) (before source rest)
      else if c = ')' then
        if depth - 1 = 0 then .ok (before source rest)
        else passArgument name (depth - 1) (before source rest)
      else passArgument name depth (before source rest) := by
  rw [passArgument, peek_before suffix, List.getElem?_cons_zero]
  dsimp only
  rw [if_neg sameLine]
  split
  · simp_all [advance_before suffix]
  · rename_i next moved
    obtain rfl : before source rest = next := by simp_all [advance_before suffix]
    rfl

/-- `argument` unfolded once, in the form of `passArgument_cons`, so that the two can be compared by
one case split on the character. -/
lemma argument_cons {opened : Nat} (sameLine : c ≠ '\n') (goesOn : ¬ (c = ')' ∧ opened = 0)) :
    argument opened (c :: rest) =
      (argument (if c = '(' then opened + 1 else if c = ')' then opened - 1 else opened) rest).map
        fun pair => (c :: pair.1, pair.2) := by
  rw [argument, if_neg sameLine, if_neg goesOn]
  dsimp only
  cases argument _ rest with
  | error left => rfl
  | ok pair => rfl

lemma argument_eq_append {opened : Nat} {text inner left : Text}
    (read : argument opened text = .ok (inner, left)) : text = inner ++ left := by
  induction text generalizing opened inner with
  | nil => simp [argument] at read
  | cons c text ih =>
    by_cases lineEnd : c = '\n'
    · simp [argument, lineEnd] at read
    by_cases ends : c = ')' ∧ opened = 0
    · rw [argument, if_neg lineEnd, if_pos ends] at read
      obtain ⟨rfl, rfl⟩ := Prod.mk.inj (Except.ok.inj read)
      rfl
    · rw [argument_cons lineEnd ends] at read
      obtain ⟨⟨tail, after⟩, found, same⟩ := map_eq_ok_iff.1 read
      obtain ⟨rfl, rfl⟩ := Prod.mk.inj same
      rw [List.cons_append, ← ih found]

/-- Behind the first of the parentheses there is one more open than `argument` counts; with that the
counters of `passArgument_cons` and `argument_cons` go together. -/
theorem passArgument_before (name : Text) (opened : Nat) (suffix : rest <:+ source) :
    passArgument name (opened + 1) (before source rest) =
      ((argument opened rest).mapError fun left =>
        .ofStop source ⟨.unbalancedPseudoClass name, left⟩).map fun pair =>
          before source pair.2 := by
  induction rest generalizing opened with
  | nil =>
    rw [passArgument, peek_before suffix]
    rfl
  | cons c rest ih =>
    have tail := suffix_of_cons suffix
    by_cases lineEnd : c = '\n'
    · rw [passArgument, peek_before suffix, argument, if_pos lineEnd, List.getElem?_cons_zero]
      dsimp only
      rw [if_pos lineEnd]
      rfl
    rw [passArgument_cons _ _ suffix lineEnd]
    by_cases ends : c = ')' ∧ opened = 0
    · obtain ⟨rfl, rfl⟩ := ends
      rfl
    -- The two counts differ by one, before and after the character.
    have inner (count : Nat) : passArgument name (count + 1) (before source rest) =
        (((argument count rest).map fun pair => (c :: pair.1, pair.2)).mapError fun left =>
          .ofStop source ⟨.unbalancedPseudoClass name, left⟩).map fun pair =>
            before source pair.2 := by
      rw [ih count tail]
      cases argument count rest with
      | error left => rfl
      | ok pair => rfl
    rw [argument_cons lineEnd ends, ← inner]
    by_cases opens : c = '('
    · rw [if_pos opens, if_pos opens]
      rfl
    rw [if_neg opens, if_neg opens]
    by_cases closes : c = ')'
    · obtain ⟨opened, rfl⟩ := Nat.exists_eq_succ_of_ne_zero fun none => ends ⟨closes, none⟩
      rw [if_pos closes, if_pos closes, if_neg (by omega)]
      congr 1
      omega
    · rw [if_neg closes, if_neg closes]

lemma readArgument_follows (name : Text) (suffix : rest <:+ source) :
    (readArgument name).Follows source rest (pseudoArgument name rest) := by
  rw [Follows, readArgument, run_bind (look_before suffix 0), ← List.head?_eq_getElem?]
  by_cases opens : rest.head? = some '('
  · obtain ⟨text, rfl⟩ := List.head?_eq_some_iff.1 opens
    have passed : passArgument name 0 (before source ('(' :: text)) = _ :=
      (passArgument_cons name 0 suffix (by decide)).trans
        (passArgument_before name 0 (suffix_of_cons suffix))
    rw [if_pos opens, pseudoArgument]
    show (passArgument name 0 (before source ('(' :: text))).map _ = _
    rw [passed]
    cases read : argument 0 text with
    | error left => rfl
    | ok pair =>
      obtain ⟨inner, left⟩ := pair
      obtain rfl := argument_eq_append read
      have cut : (before source left).since (before source ('(' :: (inner ++ left))).offset =
          '(' :: inner :=
        since_before ('(' :: inner) suffix
      show Except.ok (_, _) = _
      rw [cut]
      rfl
  · rw [if_neg opens]
    unfold pseudoArgument
    split
    · simp at opens
    · rfl

lemma readPseudoClass_follows (suffix : c :: rest <:+ source) :
    readPseudoClass.Follows source (c :: rest) (pseudoClass rest) := by
  have behind := suffix_of_cons suffix
  have named := (List.dropWhile_suffix isNameCharacter).trans behind
  rw [Follows, readPseudoClass, run_bind (advance_run suffix),
    run_bind (takeWhile_before _ behind)]
  refine (readArgument_follows _ named).bind ((pseudoArgument_suffix _ _).trans named) ?_
  intro argument left tail
  rw [ite_not]
  dsimp only
  split
  · rfl
  · rfl

/-! ## Numbers and colours -/

lemma append_fraction (text : Text) : (fraction text).1 ++ (fraction text).2 = text := by
  unfold fraction
  split
  · split
    · simp
    · rfl
  · rfl

lemma passFraction_run (suffix : rest <:+ source) :
    passFraction.run (before source rest) =
      .ok ((fraction rest).1 ≠ [], before source (fraction rest).2) := by
  rw [passFraction, run_bind (look_before suffix 0), run_bind (look_before suffix 1)]
  rcases rest with _ | ⟨mark, _ | ⟨digit, rest⟩⟩
  · rfl
  · simp [fraction]
    rfl
  · have behind := suffix_of_cons suffix
    simp only [List.getElem?_cons_zero, List.getElem?_cons_succ, Option.some.injEq,
      Option.any_some, fraction]
    split
    · rename_i present
      rw [run_bind (advance_run suffix), run_bind (takeWhile_before _ behind), run_pure,
        List.dropWhile_cons_of_pos present.2]
      simp
    · rfl

/-- `Numeral.parse` is `Numeral.integer` wherever its two checks pass.  The length is left, and
stays a crash. -/
lemma parse_of_digits {text : Text} (digital : (Text.skip '-' text).all isDecimalDigit = true)
    (given : Text.skip '-' text ≠ []) :
    Numeral.parse text =
      (Numeral.integer text).mapError fun e => .crashed (.integerTooLong e) := by
  rw [Numeral.parse, if_neg (by simp_all)]
  cases Numeral.integer text with
  | error e => rfl
  | ok value => rfl

lemma all_takeWhile_digits (text : Text) :
    (text.takeWhile Char.isDigit).all isDecimalDigit = true :=
  List.all_eq_true.2 fun _ mem =>
    isDecimalDigit_of_isDigit (List.mem_takeWhile_imp mem)

lemma skip_signed (text : Text) :
    Text.skip '-' ((if text.head? = some '-' then ['-'] else []) ++
      (Text.skip '-' text).takeWhile Char.isDigit) =
        (Text.skip '-' text).takeWhile Char.isDigit := by
  split
  · simp [Text.skip]
  · refine Text.skip_of_head?_ne fun minus => ?_
    have digit := List.mem_takeWhile_imp (List.mem_of_mem_head? minus)
    simp at digit

lemma append_number (text : Text) :
    ((if text.head? = some '-' then ['-'] else []) ++
      (Text.skip '-' text).takeWhile Char.isDigit) ++ (Text.skip '-' text).dropWhile Char.isDigit =
        text := by
  rw [List.append_assoc, List.takeWhile_append_dropWhile]
  cases text with
  | nil => rfl
  | cons c rest => by_cases minus : c = '-' <;> simp [Text.skip, minus]

/-- Where `beginsNumber` holds, the number has digits unless it has a fraction; so an integer is
never read from a sign alone, and `parse_of_digits` applies. -/
theorem readNumber_follows (begins : beginsNumber rest = true) (suffix : rest <:+ source) :
    readNumber.Follows source rest (number rest) := by
  have body := (skip_suffix '-' rest).trans suffix
  have behind := (List.dropWhile_suffix Char.isDigit).trans body
  have cut := append_fraction ((Text.skip '-' rest).dropWhile Char.isDigit)
  have tail := (fraction_suffix _).trans behind
  have start := digits_or_point begins
  have written := skip_signed rest
  have whole := append_number rest
  have passes := passFraction_run behind
  rw [Follows, readNumber, run_bind run_get]
  dsimp only
  rw [run_bind (accept_before '-' suffix), run_bind (takeWhile_before _ body), run_bind passes]
  simp only [number]
  generalize fraction ((Text.skip '-' rest).dropWhile Char.isDigit) = parts at *
  generalize (if rest.head? = some '-' then ['-'] else []) ++
    (Text.skip '-' rest).takeWhile Char.isDigit = integral at *
  obtain ⟨part, left⟩ := parts
  rw [run_bind (takeWhile_before _ tail), run_bind run_get]
  have passed : (before source (left.dropWhile Char.isAlpha)).since (before source rest).offset =
      integral ++ part ++ left.takeWhile Char.isAlpha := by
    have split : integral ++ part ++ left.takeWhile Char.isAlpha ++ left.dropWhile Char.isAlpha =
        rest := by
      rw [List.append_assoc, List.takeWhile_append_dropWhile, List.append_assoc, cut, whole]
    rw [← split]
    exact since_before _ (by rwa [split])
  dsimp only
  rw [passed]
  by_cases plain : part = [] ∧ left.takeWhile Char.isAlpha = []
  · obtain ⟨noPart, noUnit⟩ := plain
    rw [noPart] at start
    have digits := start.resolve_right (by simp)
    simp only [noPart, noUnit, List.append_nil, ne_eq, not_true, decide_false, false_or,
      Bool.false_eq_true, if_false, and_self, if_true]
    rw [parse_of_digits (written ▸ all_takeWhile_digits _) (written ▸ digits)]
    cases Numeral.integer integral with
    | error e => rfl
    | ok value => rfl
  · have kept : left.takeWhile Char.isAlpha ≠ [] ∨ decide (part ≠ []) = true := by
      rw [decide_eq_true_iff]
      exact (not_and_or.1 plain).symm
    rw [if_neg plain, if_pos kept]
    rfl

/-- The loop over the digits of a colour counts from `start`, where `color` takes at most
`colorDigits` of them; `room` is what is left of that number. -/
lemma advanceWhile_color (start room : Nat) (suffix : rest <:+ source)
    (space : start + colorDigits = (before source rest).offset + room) :
    (before source rest).advanceWhile (fun cursor =>
        (cursor.peek 0).any Numeral.isHexDigit && cursor.offset - start < colorDigits) =
      .ok (before source (rest.drop ((rest.takeWhile Numeral.isHexDigit).take room).length)) := by
  have some : 0 < colorDigits := by decide
  induction rest generalizing room with
  | nil =>
    rw [advanceWhile_stop]
    · simp
    · simp [peek_before suffix]
  | cons c rest ih =>
    have tail := suffix_of_cons suffix
    have shorter : (before source rest).offset = (before source (c :: rest)).offset + 1 := by
      have := suffix.length_le
      simp only [before, List.length_cons] at this ⊢
      omega
    by_cases hex : Numeral.isHexDigit c
    · cases room with
      | zero =>
        refine advanceWhile_stop ?_
        simp only [Bool.and_eq_false_iff, decide_eq_false_iff_not]
        omega
      | succ room =>
        rw [advanceWhile_cons suffix, ih room tail (by omega)]
        · simp [hex]
        · simp only [peek_before suffix, List.getElem?_cons_zero, Option.any_some, hex,
            Bool.true_and, decide_eq_true_eq]
          omega
    · rw [advanceWhile_stop]
      · simp [hex]
      · simp [peek_before suffix, hex]

lemma readColor_follows (suffix : c :: rest <:+ source) :
    readColor.Follows source (c :: rest) (.ok (color rest)) := by
  have behind := suffix_of_cons suffix
  have stops := advanceWhile_color (before source rest).offset colorDigits behind rfl
  have whole : (rest.takeWhile Numeral.isHexDigit).take colorDigits ++
      rest.drop ((rest.takeWhile Numeral.isHexDigit).take colorDigits).length = rest :=
    List.prefix_iff_eq_append.1 ((List.take_prefix _ _).trans (List.takeWhile_prefix _))
  have passed := passWhile_run (whole.symm ▸ behind) (by rwa [whole])
  rw [whole] at passed
  rw [Follows, readColor, run_bind (advance_run suffix), run_bind run_get, run_bind passed]
  rfl

/-! ## Values and symbols -/

lemma isWordPart_of_beginsWord (begins : beginsWord c = true) : isWordPart c = true := by
  simp only [beginsWord, Bool.or_eq_true] at begins
  simp only [isWordPart, isNameCharacter, Char.isAlphanum, Bool.or_eq_true]
  tauto

lemma readUnitReference_follows (unit : Text) (suffix : rest <:+ source) :
    (readUnitReference unit).Follows source rest (unitReference unit rest) := by
  have gap := (List.dropWhile_suffix isGap).trans suffix
  rw [Follows, readUnitReference, run_bind (takeWhile_before _ suffix),
    run_bind (look_before gap 0), unitReference]
  cases tail : rest.dropWhile isGap with
  | nil => rfl
  | cons d left =>
    rw [tail] at gap
    by_cases brace : d = '{'
    · subst brace
      rw [if_neg (by simp)]
      exact (readBracedName_follows gap).map fun name => Token.variableRef name (some unit)
    · rw [if_pos (by simpa using brace)]
      split
      · simp_all
      · rfl

/-- `readAssigned` does not know comments.  `construct_run` has dealt with those by the time it is
called. -/
lemma readAssigned_follows (suffix : rest <:+ source) (noComment : ¬ Slashes rest) :
    readAssigned.Follows source rest (assigned rest) := by
  rw [Follows, readAssigned, run_bind (look_before suffix 0)]
  cases rest with
  | nil => rfl
  | cons c rest =>
    have plain : ¬ (c = '/' ∧ rest.head? = some '/') := fun both =>
      noComment ⟨congrArg some both.1, both.2⟩
    rw [List.getElem?_cons_zero, assigned]
    dsimp only
    by_cases lineEnd : c = '\n'
    · rw [if_pos lineEnd, if_pos (.inl lineEnd)]
      rfl
    rw [if_neg lineEnd, if_neg (not_or.2 ⟨lineEnd, plain⟩)]
    by_cases brace : c = '{'
    · rw [if_pos brace, if_pos brace]
      exact readVariableRef_follows suffix
    rw [if_neg brace, if_neg brace]
    by_cases sharp : c = '#'
    · rw [if_pos sharp, if_pos sharp]
      exact readColor_follows suffix
    rw [if_neg sharp, if_neg sharp, run_bind (atNumber_run suffix)]
    by_cases begins : beginsNumber (c :: rest)
    · rw [if_pos begins, if_pos begins]
      exact readNumber_follows begins suffix
    rw [if_neg begins, if_neg begins]
    by_cases word : beginsWord c
    · have part := isWordPart_of_beginsWord word
      rw [if_pos word, if_pos word, run_bind (takeWhile_before _ suffix), ite_not,
        List.takeWhile_cons_of_pos part, List.dropWhile_cons_of_pos part]
      split
      · exact readUnitReference_follows _
          ((List.dropWhile_suffix isWordPart).trans (suffix_of_cons suffix))
      · rfl
    · rw [if_neg word, if_neg word]
      rfl

/-- `readSymbol` asserts that a kind from its table is `structural`.  The table holds no other, and
it agrees with `symbol` on every character. -/
theorem symbolKind?_cases (c : Char) :
    (symbolKind? c = none ∧ symbol c = .symbol .unknown [c]) ∨
      ∃ kind, symbolKind? c = some (.symbol kind) ∧ symbol c = .symbol kind [] := by
  unfold symbolKind? symbol
  split
  · exact .inr ⟨_, rfl, rfl⟩
  split
  · exact .inr ⟨_, rfl, rfl⟩
  split
  · exact .inr ⟨_, rfl, rfl⟩
  split
  · exact .inr ⟨_, rfl, rfl⟩
  · exact .inl ⟨rfl, rfl⟩

lemma readSymbol_follows (suffix : c :: rest <:+ source) :
    readSymbol.Follows source (c :: rest) (.ok (symbol c, rest)) := by
  rw [Follows, readSymbol, run_bind (advance_run suffix)]
  obtain ⟨unknown, found⟩ | ⟨kind, known, found⟩ := symbolKind?_cases c
  · rw [unknown, found]
    rfl
  · rw [known, found]
    rfl

/-! ## Steps -/

/-- The lexer refuses a comment after an equals sign at once, the scanner makes the token and stops
in the next step; the second disjunct keeps track of this until `step_comment` takes over. -/
lemma construct_run (suffix : c :: rest <:+ source) :
    (construct prior (some c)).Follows source (c :: rest)
        (extend prior (Lexer.construct prior c rest)) ∨
      ∃ text, '/' :: '/' :: text <:+ rest ∧
        Lexer.construct prior c rest = .error ⟨.missingValue, '/' :: '/' :: text⟩ ∧
        (construct prior (some c)).run (before source (c :: rest)) =
          .ok (.equals :: prior, before source ('/' :: '/' :: text)) := by
  have behind := suffix_of_cons suffix
  simp only [construct, Lexer.construct, Option.some.injEq, Option.any_some]
  by_cases media : c = '@'
  · rw [if_pos media, if_pos media]
    exact .inl ((readMedia_follows suffix).one prior)
  rw [if_neg media, if_neg media]
  by_cases dollar : c = '$'
  · rw [if_pos dollar, if_pos dollar]
    exact .inl ((readIdentifier_follows suffix).one prior)
  rw [if_neg dollar, if_neg dollar]
  by_cases colon : c = ':'
  · rw [if_pos colon, if_pos colon]
    exact .inl ((readPseudoClass_follows suffix).one prior)
  rw [if_neg colon, if_neg colon, Follows, run_bind (atNumber_run suffix)]
  by_cases begins : beginsNumber (c :: rest)
  · rw [if_pos begins, if_pos begins]
    exact .inl ((readNumber_follows begins suffix).one prior)
  rw [if_neg begins, if_neg begins]
  by_cases word : beginsWord c
  · have part := isWordPart_of_beginsWord word
    rw [if_pos word, if_pos word, run_bind (takeWhile_before _ suffix),
      List.takeWhile_cons_of_pos part, List.dropWhile_cons_of_pos part]
    exact .inl rfl
  rw [if_neg word, if_neg word]
  by_cases percent : c = '%'
  · rw [if_pos percent, if_pos percent, run_bind (advance_run suffix)]
    exact .inl rfl
  rw [if_neg percent, if_neg percent]
  by_cases brace : c = '{'
  · rw [if_pos brace, if_pos brace]
    exact .inl ((readVariableRef_follows suffix).one prior)
  rw [if_neg brace, if_neg brace]
  by_cases sharp : c = '#'
  · rw [if_pos sharp, if_pos sharp]
    exact .inl ((readColor_follows suffix).one prior)
  rw [if_neg sharp, if_neg sharp]
  by_cases equals : c = '='
  · have gap := (List.dropWhile_suffix isGap).trans behind
    rw [if_pos equals, if_pos equals, run_bind (advance_run suffix),
      run_bind (takeWhile_before _ behind), run_bind (atComment_run gap)]
    by_cases comment : Slashes (rest.dropWhile isGap)
    · obtain ⟨text, slashes⟩ := comment.exists_eq
      rw [if_pos (decide_eq_true comment), slashes]
      exact .inr ⟨text, slashes ▸ List.dropWhile_suffix isGap, rfl, rfl⟩
    · rw [if_neg (by simpa using comment)]
      have value := (readAssigned_follows gap comment).map fun token => token :: .equals :: prior
      refine .inl (value.trans (congrArg (resume source) ?_))
      cases assigned (rest.dropWhile isGap) with
      | error stop => rfl
      | ok pair => rfl
  · rw [if_neg equals, if_neg equals]
    exact .inl ((readSymbol_follows suffix).one prior)

/-- A step of the scanner is a step of the lexer, unless a comment follows an equals sign: then the
scanner stops only in the next step, which `step_comment` is about. -/
theorem step_run (noEquals : prior.head? ≠ some .equals) (suffix : c :: rest <:+ source) :
    (step prior).Follows source (c :: rest) (extend prior (Lexer.step prior c rest)) ∨
      ∃ text, '/' :: '/' :: text <:+ rest ∧
        Lexer.step prior c rest = .error ⟨.missingValue, '/' :: '/' :: text⟩ ∧
        (step prior).run (before source (c :: rest)) =
          .ok (.equals :: prior, before source ('/' :: '/' :: text)) := by
  have behind := suffix_of_cons suffix
  rw [Follows, step, run_bind (look_before suffix 0), List.getElem?_cons_zero, Lexer.step,
    Option.any_some]
  by_cases gap : isGap c
  · rw [if_pos gap, if_pos gap, run_bind (advance_run suffix)]
    exact .inl rfl
  rw [if_neg gap, if_neg gap, run_bind (atComment_run suffix)]
  by_cases comment : c = '/' ∧ rest.head? = some '/'
  · obtain ⟨rfl, second⟩ := comment
    obtain ⟨text, rfl⟩ := List.head?_eq_some_iff.1 second
    rw [if_pos (decide_eq_true ⟨rfl, second⟩), if_neg noEquals, if_pos ⟨rfl, second⟩]
    exact .inl ((readComment_follows suffix).one prior)
  have noSlashes : ¬ Slashes (c :: rest) := fun slashes =>
    comment ⟨Option.some.inj slashes.1, slashes.2⟩
  rw [if_neg (by simpa using noSlashes), if_neg comment]
  by_cases lineEnd : c = '\n'
  · rw [if_pos (congrArg some lineEnd), if_pos lineEnd, run_bind (advance_run suffix)]
    exact .inl rfl
  rw [if_neg (by simpa using lineEnd), if_neg lineEnd, run_bind run_get,
    startsWith_before suffix, Text.startsWith]
  cases marker : Text.after? layerKeyword (c :: rest) with
  | none =>
    rw [if_neg (by simp)]
    exact construct_run suffix
  | some text =>
    have whole := Text.after?_eq_some marker
    have first : some c = some 'L' := congrArg List.head? whole
    rw [if_pos ⟨first, rfl⟩]
    rw [whole] at suffix ⊢
    exact .inl ((readLayerMarker_follows suffix).one prior)

theorem step_comment {text : Text} (suffix : '/' :: '/' :: text <:+ source) :
    (step (.equals :: prior)).run (before source ('/' :: '/' :: text)) =
      .error (.ofStop source ⟨.missingValue, '/' :: '/' :: text⟩) := by
  rw [step, run_bind (look_before suffix 0), List.getElem?_cons_zero, Option.any_some,
    if_neg (by decide), run_bind (atComment_run suffix)]
  rfl

/-! ## The whole source -/

lemma tokensFrom_of_error {halt : Halt} (suffix : c :: rest <:+ source)
    (stopped : (step prior).run (before source (c :: rest)) = .error halt) :
    tokensFrom prior (before source (c :: rest)) = .error halt := by
  rw [tokensFrom, atEnd_before suffix, stopped]
  rfl

/-- The loop of `tokensFrom` crashes with `stalled` if a step does not move the cursor, so that a
step must be known to leave less text. -/
lemma tokensFrom_of_step {next : List Token} {left : Text} (suffix : c :: rest <:+ source)
    (shorter : left <:+ rest)
    (taken : (step prior).run (before source (c :: rest)) = .ok (next, before source left)) :
    tokensFrom prior (before source (c :: rest)) = tokensFrom next (before source left) := by
  have less : (before source left).remaining < (before source (c :: rest)).remaining := by
    rw [remaining_before suffix, remaining_before (shorter.trans (suffix_of_cons suffix))]
    exact Nat.lt_succ_of_le shorter.length_le
  rw [tokensFrom, atEnd_before suffix, taken]
  exact if_pos less

/-- By induction along `Lexer.tokensFrom`: `step_run` for one step, and where it delays the missing
value, `step_comment` for the step after it. -/
lemma tokensFrom_before (noEquals : prior.head? ≠ some .equals) (suffix : rest <:+ source) :
    tokensFrom prior (before source rest) =
      (Lexer.tokensFrom prior rest).mapError (.ofStop source) := by
  fun_induction Lexer.tokensFrom prior rest with
  | case1 prior =>
    rw [tokensFrom, atEnd_before suffix]
    rfl
  | case2 prior c rest stop refused =>
    obtain follows | ⟨text, behind, same, goesOn⟩ := step_run noEquals suffix
    · rw [Follows, refused] at follows
      exact tokensFrom_of_error suffix follows
    · obtain rfl := Except.error.inj (refused.symm.trans same)
      have slashes := behind.trans (suffix_of_cons suffix)
      rw [tokensFrom_of_step suffix behind goesOn]
      exact tokensFrom_of_error slashes (step_comment slashes)
  | case3 prior c rest emitted left taken ih =>
    obtain follows | ⟨text, -, same, -⟩ := step_run noEquals suffix
    · have unread := step_suffix prior c rest
      rw [taken] at unread
      have behind : left <:+ rest :=
        (List.suffix_cons_iff.1 unread).resolve_left fun whole =>
          Nat.not_succ_le_self _ (congrArg List.length whole ▸ step_length_le taken)
      rw [Follows, taken] at follows
      rw [tokensFrom_of_step suffix behind follows]
      exact ih (head_ne_equals_of_step noEquals taken) (behind.trans (suffix_of_cons suffix))
    · simp [same] at taken

/-- `tokensFrom_before` at the start of the source.  The scanner crashes where the lexer has
`LexFault.integerTooLong`, and nowhere else. -/
theorem tokens_eq (source : Text) :
    tokens source = (Lexer.tokens source).mapError fun error => .ofError (.lexical error) := by
  rw [tokens, start_eq_before, tokensFrom_before (by simp) (List.suffix_refl source),
    Lexer.tokens]
  cases Lexer.tokensFrom [] source with
  | error stop => rfl
  | ok tokens => rfl

end UtilityCss.Scanner
