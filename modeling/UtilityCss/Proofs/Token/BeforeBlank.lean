import UtilityCss.Proofs.Token.Lines
import UtilityCss.Proofs.Token.Spelling

/-!
# Reading before a blank

A construct that can be read is read alike when a blank follows it and then anything at all
(`Lexer.step_clear`): a reader that succeeds has found its end in the text that it was given, or
ends at a blank as it does at the end of a line.  There are two exceptions.  The last word of a line
may be the keyword of a layer marker, which a blank completes; and a layer marker takes the rest of
its line along, if that is empty.
-/

namespace UtilityCss.Lexer

variable {prior emitted : List Token} {c : Char} {text rest below : Text} {token : Token}
  {p : Char → Bool} {α : Type}

/-- Nothing follows, or a blank does. -/
def Clear (below : Text) : Prop := ∀ c ∈ below.head?, isBlank c = true

lemma Clear.stops (clear : Clear below) (solid : ∀ c, p c = true → isBlank c = false) :
    ∀ c ∈ below.head?, p c = false := by
  intro c first
  by_contra inside
  have noBlank := solid c (Bool.eq_true_of_not_eq_false inside)
  exact Bool.false_ne_true (noBlank.symm.trans (clear c first))

lemma Clear.head_ne (clear : Clear below) (solid : isBlank c = false) : below.head? ≠ some c :=
  fun first => Bool.false_ne_true (solid.symm.trans (clear c first))

lemma Clear.ended (clear : Clear below) : Ended below := fun c first =>
  ⟨clear.stops (fun _ => not_isBlank_of_isWordPart) c first,
    fun point => clear.head_ne (c := '.') (by decide) (point ▸ first),
    fun slash => clear.head_ne (c := '/') (by decide) (slash ▸ first)⟩

/-- What succeeds on a text succeeds on a longer one, and leaves as much more. -/
def Carries (below : Text) (short long : Except Stop (α × Text)) : Prop :=
  ∀ read rest, short = .ok (read, rest) → long = .ok (read, rest ++ below)

lemma carries_followed (short : Except Stop (α × Text)) :
    Carries below short (followed below short) := by
  rintro read rest rfl
  rfl

lemma carries_error (stop : Stop) (long : Except Stop (α × Text)) :
    Carries below (.error stop) long := by
  intro read rest found
  simp at found

lemma Carries.one {short long : Except Stop (Token × Text)} (h : Carries below short long) :
    Carries below (one short) (one long) := by
  intro read rest found
  obtain ⟨⟨token, left⟩, given, same⟩ := map_eq_ok_iff.1 found
  obtain ⟨rfl, rfl⟩ := Prod.mk.inj same
  exact map_eq_ok_iff.2 ⟨_, h token left given, rfl⟩

/-! ## Readers -/

lemma bracedName_carries (text below : Text) :
    Carries below (bracedName text) (bracedName (text ++ below)) := by
  intro name rest found
  simp only [bracedName] at found ⊢
  split at found
  · rename_i closed
    obtain ⟨rfl, rfl⟩ := Prod.mk.inj (Except.ok.inj found)
    have stops : (text.dropWhile fun c => c != '}' && c != '\n') ≠ [] := by simp [closed]
    rw [Text.dropWhile_append_of_ne_nil stops, Text.takeWhile_append_of_ne_nil stops, closed]
    rfl
  · simp at found

lemma variableRef_carries (text : Text) (clear : Clear below) :
    Carries below (variableRef text) (variableRef (text ++ below)) := by
  intro token rest found
  obtain ⟨⟨name, left⟩, named, -⟩ := bind_eq_ok_iff.1 found
  have longer := bracedName_carries text below name left named
  by_cases percent : left.head? = some '%'
  · obtain ⟨tail, rfl⟩ := List.head?_eq_some_iff.1 percent
    simp only [variableRef, named, longer, bind, Except.bind, List.cons_append] at found ⊢
    obtain ⟨rfl, rfl⟩ := Prod.mk.inj (Except.ok.inj found)
    rfl
  · have noLetter := clear.ended.stops fun _ => isWordPart_of_isAlpha
    have noPercent := clear.head_ne (c := '%') (by decide)
    have same : variableRef (text ++ below) = followed below (variableRef text) := by
      rw [variableRef_of_ne named percent,
        variableRef_of_ne longer (mt (Text.head?_append_stop noPercent).1 percent),
        Text.takeWhile_append_stop noLetter, Text.dropWhile_append_stop noLetter]
      split
      · rfl
      · split <;> rfl
    rw [same]
    exact carries_followed _ token rest found

lemma media_carries (text : Text) (clear : Clear below) :
    Carries below (media text) (media (text ++ below)) := by
  by_cases brace : text.head? = some '{'
  · obtain ⟨tail, rfl⟩ := List.head?_eq_some_iff.1 brace
    intro token rest found
    obtain ⟨⟨name, left⟩, named, found⟩ := bind_eq_ok_iff.1 found
    obtain ⟨rfl, rfl⟩ := Prod.mk.inj (Except.ok.inj found)
    exact bind_eq_ok_iff.2 ⟨_, bracedName_carries tail below name left named, rfl⟩
  · have noBrace := clear.head_ne (c := '{') (by decide)
    have blank := clear.stops (p := (!isBlank ·)) (by simp)
    have same : media (text ++ below) = followed below (media text) := by
      rw [media_of_ne brace, media_of_ne (mt (Text.head?_append_stop noBrace).1 brace),
        Text.takeWhile_append_stop blank, Text.dropWhile_append_stop blank]
      split <;> rfl
    rw [same]
    exact carries_followed _

lemma argument_carries {opened : Nat} {inner : Text}
    (found : argument opened text = .ok (inner, rest)) (below : Text) :
    argument opened (text ++ below) = .ok (inner, rest ++ below) := by
  induction text generalizing opened inner with
  | nil => simp [argument] at found
  | cons c text ih =>
    simp only [List.cons_append, argument] at found ⊢
    split at found
    · simp at found
    rename_i sameLine
    rw [if_neg sameLine]
    split at found
    · rename_i closes
      obtain ⟨rfl, rfl⟩ := Prod.mk.inj (Except.ok.inj found)
      rw [if_pos closes]
    rename_i goesOn
    rw [if_neg goesOn]
    split at found
    · simp at found
    · rename_i inner left inside
      obtain ⟨rfl, rfl⟩ := Prod.mk.inj (Except.ok.inj found)
      rw [ih inside]

lemma pseudoArgument_carries (name text : Text) (clear : Clear below) :
    Carries below (pseudoArgument name text) (pseudoArgument name (text ++ below)) := by
  by_cases opens : text.head? = some '('
  · obtain ⟨tail, rfl⟩ := List.head?_eq_some_iff.1 opens
    intro argument rest found
    simp only [List.cons_append, pseudoArgument] at found ⊢
    split at found
    · simp at found
    · rename_i inner left inside
      obtain ⟨rfl, rfl⟩ := Prod.mk.inj (Except.ok.inj found)
      rw [argument_carries inside]
  · have plain {text : Text} (opens : text.head? ≠ some '(') :
        pseudoArgument name text = .ok ([], text) := by
      unfold pseudoArgument
      split
      · simp at opens
      · rfl
    have noParenthesis := clear.head_ne (c := '(') (by decide)
    rw [plain opens, plain (mt (Text.head?_append_stop noParenthesis).1 opens)]
    rintro _ _ ⟨⟩
    rfl

lemma pseudoClass_carries (text : Text) (clear : Clear below) :
    Carries below (pseudoClass text) (pseudoClass (text ++ below)) := by
  have ends := clear.stops (p := isNameCharacter) fun c part =>
    not_isBlank_of_isWordPart (by simp [isWordPart, part])
  intro token rest found
  unfold pseudoClass at found ⊢
  rw [Text.takeWhile_append_stop ends, Text.dropWhile_append_stop ends]
  obtain ⟨⟨argument, left⟩, inside, found⟩ := bind_eq_ok_iff.1 found
  refine bind_eq_ok_iff.2 ⟨_, pseudoArgument_carries _ _ clear argument left inside, ?_⟩
  simp only at found ⊢
  split at found
  · rename_i known
    obtain ⟨rfl, rfl⟩ := Prod.mk.inj (Except.ok.inj found)
    rw [if_pos known]
  · simp at found

lemma unitReference_carries (unit text below : Text) :
    Carries below (unitReference unit text) (unitReference unit (text ++ below)) := by
  intro token rest found
  unfold unitReference at found ⊢
  split at found
  · rename_i tail opened
    obtain ⟨⟨name, left⟩, named, found⟩ := bind_eq_ok_iff.1 found
    obtain ⟨rfl, rfl⟩ := Prod.mk.inj (Except.ok.inj found)
    rw [Text.dropWhile_append_of_ne_nil (by simp [opened]), opened]
    exact bind_eq_ok_iff.2 ⟨_, bracedName_carries tail below name left named, rfl⟩
  · simp at found

lemma number_ended (ended : Ended below) :
    number (text ++ below) = followed below (number text) := by
  refine number_append_stop fun c first => ?_
  obtain ⟨noWord, noPoint, noSlash⟩ := ended c first
  rintro (letter | digit | rfl | point | slash)
  · exact Bool.false_ne_true (noWord.symm.trans (isWordPart_of_isAlpha letter))
  · exact Bool.false_ne_true (noWord.symm.trans (isWordPart_of_isDigit digit))
  · exact absurd noWord (by decide)
  · exact noPoint point
  · exact noSlash slash

lemma color_ended (ended : Ended below) :
    color (text ++ below) = ((color text).1, (color text).2 ++ below) :=
  color_append_stop (ended.stops fun _ => isWordPart_of_isHexDigit)

lemma assigned_carries (text : Text) (clear : Clear below) :
    Carries below (assigned text) (assigned (text ++ below)) := by
  cases text with
  | nil => exact carries_error ⟨.missingValue, []⟩ _
  | cons c text =>
    have ends := clear.stops (p := isWordPart) fun _ => not_isBlank_of_isWordPart
    have noSlash := clear.head_ne (c := '/') (by decide)
    rw [List.cons_append, assigned, assigned]
    simp only [Text.head?_append_stop noSlash, color_ended clear.ended,
      Text.takeWhile_append_stop ends, Text.dropWhile_append_stop ends]
    rw [← List.cons_append, beginsNumber_ended clear.ended, number_ended clear.ended]
    split
    · exact carries_error _ _
    split
    · exact variableRef_carries text clear
    split
    · exact carries_followed (.ok (color text))
    split
    · exact carries_followed _
    split
    · split
      · exact unitReference_carries _ _ below
      · exact carries_followed (.ok _)
    · exact carries_error _ _

lemma construct_carries (prior : List Token) (c : Char) (text : Text) (clear : Clear below) :
    Carries below (construct prior c text) (construct prior c (text ++ below)) := by
  have ends := clear.stops (p := isWordPart) fun _ => not_isBlank_of_isWordPart
  have names := clear.stops (p := isNameCharacter) fun c part =>
    not_isBlank_of_isWordPart (by simp [isWordPart, part])
  unfold construct
  simp only [identifier_append_stop names, color_ended clear.ended,
    Text.takeWhile_append_stop ends, Text.dropWhile_append_stop ends]
  rw [← List.cons_append, beginsNumber_ended clear.ended, number_ended clear.ended]
  split
  · exact (media_carries text clear).one
  split
  · exact (carries_followed _).one
  split
  · exact (pseudoClass_carries text clear).one
  split
  · exact (carries_followed _).one
  split
  · exact carries_followed (.ok _)
  split
  · exact carries_followed (.ok _)
  split
  · exact (variableRef_carries text clear).one
  split
  · exact carries_followed (.ok _)
  split
  · intro read rest found
    obtain ⟨⟨value, left⟩, given, same⟩ := map_eq_ok_iff.1 found
    obtain ⟨rfl, rfl⟩ := Prod.mk.inj same
    have goesOn : text.dropWhile isGap ≠ [] := by
      intro ended
      rw [ended] at given
      simp [assigned] at given
    rw [Text.dropWhile_append_of_ne_nil goesOn]
    exact map_eq_ok_iff.2 ⟨_, assigned_carries _ clear value left given, rfl⟩
  · exact carries_followed (.ok _)

/-! ## Steps -/

/-- `finishLine` passes gaps and one line end, so that it goes beyond `text` exactly when that is
made of gaps. -/
lemma finishLine_append (text below : Text) :
    finishLine (text ++ below) =
      if text.dropWhile isGap = [] then finishLine below else finishLine text ++ below := by
  unfold finishLine
  split
  · rename_i empty
    rw [List.dropWhile_append, if_pos (by simp [empty])]
  · rename_i goesOn
    rw [Text.dropWhile_append_of_ne_nil goesOn, Text.skip_append fun ended => absurd ended goesOn]

lemma layerMarker_clear (clear : Clear below) (found : layerMarker text = .ok (token, rest)) :
    layerMarker (text ++ below) = .ok (token, rest ++ below) ∨
      rest = [] ∧ layerMarker (text ++ below) = .ok (token, finishLine below) := by
  have blank := clear.stops (p := (!isBlank ·)) (by simp)
  have noEdge : Edge.ofName? [] = none := rfl
  unfold layerMarker at found ⊢
  simp only at found ⊢
  split at found
  · simp at found
  rename_i named
  split at found
  · simp at found
  rename_i edge ended
  obtain ⟨rfl, rfl⟩ := Prod.mk.inj (Except.ok.inj found)
  have hasName : text.dropWhile isGap ≠ [] := by
    intro empty
    simp [empty] at named
  have hasEdge : ((text.dropWhile isGap).dropWhile (!isBlank ·)).dropWhile isGap ≠ [] := by
    intro empty
    simp [empty, noEdge] at ended
  rw [Text.dropWhile_append_of_ne_nil hasName, Text.takeWhile_append_stop blank,
    Text.dropWhile_append_stop blank, Text.dropWhile_append_of_ne_nil hasEdge,
    Text.takeWhile_append_stop blank, Text.dropWhile_append_stop blank, if_neg named, ended]
  simp only [finishLine_append]
  split
  · rename_i empty
    refine .inr ⟨?_, rfl⟩
    rw [finishLine, empty]
    rfl
  · exact .inl rfl

/-- Both texts begin with the same row of word characters, as a blank ends it; in a marker that row
is the keyword, which `noKeyword` excludes. -/
lemma noMarker_clear (clear : Clear below)
    (noMarker : Text.after? layerKeyword (c :: text) = none)
    (noKeyword : c :: text.takeWhile isWordPart ≠ "LAYER") :
    Text.after? layerKeyword (c :: (text ++ below)) = none := by
  cases found : Text.after? layerKeyword (c :: (text ++ below)) with
  | none => rfl
  | some marker =>
    -- Both texts begin with the same row of word characters.
    have whole := Text.after?_eq_some found
    have first : isWordPart c = true := by
      obtain rfl : c = 'L' := (List.cons.inj whole).1
      decide
    have ends := clear.stops (p := isWordPart) fun _ => not_isBlank_of_isWordPart
    have keyword : (layerKeyword ++ marker).takeWhile isWordPart = "LAYER" := by
      simp [layerKeyword, isWordPart, isNameCharacter]
    rw [← whole, List.takeWhile_cons_of_pos first, Text.takeWhile_append_stop ends] at keyword
    exact absurd keyword noKeyword

/-- `construct_carries` for all constructs but comments, which go on to the end of the line, and
markers, which take gaps along (`layerMarker_clear`); that is the second case.  The keyword of a
marker is excluded because a blank behind it makes a marker of it (`noMarker_clear`). -/
theorem step_clear (clear : Clear below) (taken : step prior c text = .ok (emitted, rest))
    (noComment : ∀ visibility content, .comment visibility content ∉ emitted)
    (noKeyword : .keyword "LAYER" ∉ emitted) :
    step prior c (text ++ below) = .ok (emitted, rest ++ below) ∨
      rest = [] ∧ step prior c (text ++ below) = .ok (emitted, finishLine below) := by
  have noSlash := clear.head_ne (c := '/') (by decide)
  unfold step at taken ⊢
  simp only [Text.head?_append_stop noSlash]
  split at taken
  · rename_i gap
    obtain ⟨rfl, rfl⟩ := Prod.mk.inj (Except.ok.inj taken)
    exact .inl (if_pos gap)
  rename_i noGap
  rw [if_neg noGap]
  split at taken
  · obtain ⟨rfl, -⟩ := Prod.mk.inj (Except.ok.inj taken)
    exact absurd List.mem_cons_self (noComment _ _)
  rename_i noSlashes
  rw [if_neg noSlashes]
  split at taken
  · rename_i lineEnd
    obtain ⟨rfl, rfl⟩ := Prod.mk.inj (Except.ok.inj taken)
    exact .inl (if_pos lineEnd)
  rename_i sameLine
  rw [if_neg sameLine]
  cases found : Text.after? layerKeyword (c :: text) with
  | some marker =>
    rw [found] at taken
    have longer : Text.after? layerKeyword (c :: (text ++ below)) = some (marker ++ below) := by
      rw [← List.cons_append, Text.after?_eq_some found, List.append_assoc, Text.after?_append]
    rw [longer]
    obtain ⟨⟨token, left⟩, read, same⟩ := map_eq_ok_iff.1 taken
    obtain ⟨rfl, rfl⟩ := Prod.mk.inj same
    rcases layerMarker_clear clear read with longer | ⟨ended, longer⟩
    · exact .inl (map_eq_ok_iff.2 ⟨_, longer, rfl⟩)
    · exact .inr ⟨ended, map_eq_ok_iff.2 ⟨_, longer, rfl⟩⟩
  | none =>
    rw [found] at taken
    have noMarker : Text.after? layerKeyword (c :: (text ++ below)) = none := by
      refine noMarker_clear clear found fun keyword => noKeyword ?_
      obtain rfl : c = 'L' := (List.cons.inj keyword).1
      have noNumber : beginsNumber ('L' :: text) = false := by simp [beginsNumber, Text.skip]
      rw [construct_of_word (by decide) noNumber, keyword,
        Token.classify_of_keyword (by decide)] at taken
      obtain ⟨rfl, -⟩ := Prod.mk.inj (Except.ok.inj taken)
      exact List.mem_cons_self
    rw [noMarker]
    exact .inl (construct_carries prior c text clear emitted rest taken)

end UtilityCss.Lexer
