import Mathlib.Data.List.TakeWhile
import UtilityCss.Token.Lexer

/-!
# Readers stop at the end of a line

Every reader takes its text up to some character that it does not want, and none wants a line end.
So what a reader makes of a text does not depend on the lines that follow: it returns the same token
or the same fault, and those lines are still unread behind what it left (`followed`).  The one
exception is a layer marker, which takes the end of its line along.

With it a source is read line by line: tokens of a first part, a line end, tokens of the rest
(`tokensFrom_line`, `tokensFrom_line_of_error`).
-/

namespace UtilityCss

variable {p : Char → Bool} {c : Char} {text below rest : Text}

/-! ## Texts that another text follows -/

namespace Text

lemma takeWhile_append_stop (stops : ∀ c ∈ below.head?, p c = false) :
    (text ++ below).takeWhile p = text.takeWhile p := by
  induction text with
  | nil =>
    cases below with
    | nil => rfl
    | cons c below => simp [stops c rfl]
  | cons c text ih => simp only [List.cons_append, List.takeWhile_cons, ih]

lemma dropWhile_append_stop (stops : ∀ c ∈ below.head?, p c = false) :
    (text ++ below).dropWhile p = text.dropWhile p ++ below := by
  induction text with
  | nil =>
    cases below with
    | nil => rfl
    | cons c below => simp [stops c rfl]
  | cons c text ih =>
    simp only [List.cons_append, List.dropWhile_cons, ih]
    split <;> rfl

/-- With `dropWhile_run` the pair by which readers of runs are evaluated: the run is the whole of
`text`, and what is left is `below`. -/
lemma takeWhile_run (all : ∀ c ∈ text, p c = true) (stops : ∀ c ∈ below.head?, p c = false) :
    (text ++ below).takeWhile p = text := by
  rw [takeWhile_append_stop stops, List.takeWhile_eq_self_iff.2 all]

lemma dropWhile_run (all : ∀ c ∈ text, p c = true) (stops : ∀ c ∈ below.head?, p c = false) :
    (text ++ below).dropWhile p = below := by
  rw [dropWhile_append_stop stops, List.dropWhile_eq_nil_iff.2 all, List.nil_append]

/-- For lists of any kind, since tokens are cut in the same way (`Assignment.split`).  Where
`dropWhile_append_stop` asks what follows, this asks that the run has ended before. -/
lemma dropWhile_append_of_ne_nil {α : Type} {p : α → Bool} {first second : List α}
    (stops : first.dropWhile p ≠ []) :
    (first ++ second).dropWhile p = first.dropWhile p ++ second := by
  rw [List.dropWhile_append, if_neg (by simpa using stops)]

lemma takeWhile_append_of_ne_nil {α : Type} {p : α → Bool} {first second : List α}
    (stops : first.dropWhile p ≠ []) : (first ++ second).takeWhile p = first.takeWhile p := by
  rw [List.takeWhile_append, if_neg]
  intro all
  have whole : first.takeWhile p = first := (List.takeWhile_prefix p).eq_of_length all
  exact stops (List.dropWhile_eq_nil_iff.2 (List.takeWhile_eq_self_iff.1 whole))

lemma skip_of_head?_ne (other : text.head? ≠ some c) : skip c text = text := by
  cases text with
  | nil => rfl
  | cons d text =>
    have differs : d ≠ c := by simpa using other
    simp [skip, differs]

lemma skip_append (other : text = [] → below.head? ≠ some c) :
    skip c (text ++ below) = skip c text ++ below := by
  cases text with
  | nil => exact skip_of_head?_ne (other rfl)
  | cons d text =>
    simp only [List.cons_append, skip]
    split <;> rfl

lemma head?_append_stop (other : below.head? ≠ some c) :
    (text ++ below).head? = some c ↔ text.head? = some c := by
  cases text with
  | nil => simp [other]
  | cons d text => simp

/-! ### The end of a line -/

lemma takeWhile_line (stops : p '\n' = false) :
    (text ++ '\n' :: below).takeWhile p = text.takeWhile p :=
  takeWhile_append_stop (by simpa using stops)

lemma dropWhile_line (stops : p '\n' = false) :
    (text ++ '\n' :: below).dropWhile p = text.dropWhile p ++ '\n' :: below :=
  dropWhile_append_stop (by simpa using stops)

lemma skip_line (other : c ≠ '\n') :
    skip c (text ++ '\n' :: below) = skip c text ++ '\n' :: below :=
  skip_append fun _ => by simpa using other.symm

lemma head?_line (other : c ≠ '\n') :
    (text ++ '\n' :: below).head? = some c ↔ text.head? = some c :=
  head?_append_stop (by simpa using other.symm)

lemma after?_line {word : Text} (other : '\n' ∉ word) :
    after? word (text ++ '\n' :: below) = (after? word text).map (· ++ '\n' :: below) := by
  fun_induction after? word text with
  | case1 text => simp [after?]
  | case2 d word =>
    have differs : d ≠ '\n' := fun same => other (by simp [same])
    simp [after?, differs]
  | case3 d word text ih =>
    simp only [List.cons_append, after?, if_true]
    exact ih fun mem => other (List.mem_cons_of_mem _ mem)
  | case4 d word e text differs => simp [after?, differs]

end Text

/-! ## One reader after the other -/

namespace Lexer

/-- What a reader returns when more text follows the one that it was given. -/
def followed {α : Type} (tail : Text) : Except Stop (α × Text) → Except Stop (α × Text)
  | .ok (read, rest) => .ok (read, rest ++ tail)
  | .error stop => .error ⟨stop.fault, stop.rest ++ tail⟩

/-- `beginsNumber` skips a sign and a point and looks at one more character; `stops` says that the
text behind has none of these three to add. -/
lemma beginsNumber_append_stop
    (stops : ∀ c ∈ below.head?, ¬ (c.isDigit = true ∨ c = '-' ∨ c = '.')) :
    beginsNumber (text ++ below) = beginsNumber text := by
  have noSign : below.head? ≠ some '-' := fun first => stops '-' first (.inr (.inl rfl))
  have noPoint : below.head? ≠ some '.' := fun first => stops '.' first (.inr (.inr rfl))
  unfold beginsNumber
  rw [Text.skip_append fun _ => noSign, Text.skip_append fun _ => noPoint]
  cases Text.skip '.' (Text.skip '-' text) with
  | cons d rest => rfl
  | nil =>
    cases below with
    | nil => rfl
    | cons d below =>
      have noDigit : ¬ d.isDigit = true := fun digit => stops d rfl (.inl digit)
      simp [noDigit]

lemma beginsNumber_line : beginsNumber (text ++ '\n' :: below) = beginsNumber text :=
  beginsNumber_append_stop (by simp)

lemma comment_line :
    comment (text ++ '\n' :: below) = ((comment text).1, (comment text).2 ++ '\n' :: below) := by
  simp only [comment, Text.head?_line (by decide : '*' ≠ '\n'),
    Text.skip_line (by decide : '*' ≠ '\n'), Text.takeWhile_line, Text.dropWhile_line,
    bne_self_eq_false]

lemma bracedName_line :
    bracedName (text ++ '\n' :: below) = followed ('\n' :: below) (bracedName text) := by
  simp only [bracedName, Text.takeWhile_line, Text.dropWhile_line, bne_self_eq_false,
    Bool.and_false]
  cases text.dropWhile fun c => c != '}' && c != '\n' with
  | nil => rfl
  | cons d rest =>
    by_cases closes : d = '}'
    · subst closes
      rfl
    · simp [followed, closes]

/-- The branch of `variableRef` that looks for letters, without the match on the percent sign;
lemmas about longer texts rewrite both sides with it. -/
lemma variableRef_of_ne {name : Text} (named : bracedName text = .ok (name, rest))
    (plain : rest.head? ≠ some '%') :
    variableRef text =
      if rest.takeWhile Char.isAlpha = [] then
        .ok (.variableRef name none, rest.dropWhile Char.isAlpha)
      else if rest.takeWhile Char.isAlpha ∈ Vocabulary.units then
        .ok (.variableRef name (some (rest.takeWhile Char.isAlpha)), rest.dropWhile Char.isAlpha)
      else .error ⟨.unknownUnit (rest.takeWhile Char.isAlpha), rest.dropWhile Char.isAlpha⟩ := by
  simp only [variableRef, named, bind, Except.bind]
  split
  · simp at plain
  · rfl

lemma variableRef_line :
    variableRef (text ++ '\n' :: below) = followed ('\n' :: below) (variableRef text) := by
  have longer : bracedName (text ++ '\n' :: below) = followed ('\n' :: below) (bracedName text) :=
    bracedName_line
  cases named : bracedName text with
  | error stop =>
    rw [named] at longer
    simp [variableRef, named, longer, followed, bind, Except.bind]
  | ok pair =>
    obtain ⟨name, rest⟩ := pair
    rw [named] at longer
    by_cases percent : rest.head? = some '%'
    · obtain ⟨tail, rfl⟩ := List.head?_eq_some_iff.1 percent
      simp [variableRef, named, longer, followed, bind, Except.bind]
    · rw [variableRef_of_ne named percent,
        variableRef_of_ne longer (mt (Text.head?_line (by decide)).1 percent),
        Text.takeWhile_line (by decide), Text.dropWhile_line (by decide)]
      split
      · rfl
      · split <;> rfl

/-- The branch of `media` for a width that is written out, for the same use as
`variableRef_of_ne`. -/
lemma media_of_ne (plain : text.head? ≠ some '{') :
    media text =
      if text.takeWhile (!isBlank ·) = [] then
        .error ⟨.missingMediaWidth, text.dropWhile (!isBlank ·)⟩
      else .ok (.mediaValue (text.takeWhile (!isBlank ·)), text.dropWhile (!isBlank ·)) := by
  unfold media
  split
  · simp at plain
  · rfl

lemma media_line : media (text ++ '\n' :: below) = followed ('\n' :: below) (media text) := by
  by_cases brace : text.head? = some '{'
  · obtain ⟨tail, rfl⟩ := List.head?_eq_some_iff.1 brace
    simp only [List.cons_append, media, bracedName_line]
    cases bracedName tail with
    | error stop => rfl
    | ok pair => rfl
  · rw [media_of_ne brace, media_of_ne (mt (Text.head?_line (by decide)).1 brace),
      Text.takeWhile_line (by decide), Text.dropWhile_line (by decide)]
    split <;> rfl

lemma identifier_append_stop (stops : ∀ c ∈ below.head?, isNameCharacter c = false) :
    identifier (text ++ below) = followed below (identifier text) := by
  simp only [identifier, Text.takeWhile_append_stop stops, Text.dropWhile_append_stop stops]
  split <;> rfl

lemma identifier_line :
    identifier (text ++ '\n' :: below) = followed ('\n' :: below) (identifier text) :=
  identifier_append_stop (by rintro c ⟨⟩; decide)

lemma argument_line {opened : Nat} :
    argument opened (text ++ '\n' :: below) =
      match argument opened text with
      | .error rest => .error (rest ++ '\n' :: below)
      | .ok (inner, rest) => .ok (inner, rest ++ '\n' :: below) := by
  induction text generalizing opened with
  | nil => rfl
  | cons d text ih =>
    simp only [List.cons_append, argument]
    split
    · rfl
    split
    · rfl
    · rw [ih]
      generalize argument _ text = read
      cases read with
      | error rest => rfl
      | ok pair => rfl

lemma pseudoArgument_line {name : Text} :
    pseudoArgument name (text ++ '\n' :: below) =
      followed ('\n' :: below) (pseudoArgument name text) := by
  cases text with
  | nil => rfl
  | cons d text =>
    by_cases opens : d = '('
    · simp only [opens, List.cons_append, pseudoArgument, argument_line]
      cases argument 0 text with
      | error rest => rfl
      | ok pair => rfl
    · simp [pseudoArgument, opens, followed]

lemma pseudoClass_line :
    pseudoClass (text ++ '\n' :: below) = followed ('\n' :: below) (pseudoClass text) := by
  simp only [pseudoClass, Text.takeWhile_line (by decide : isNameCharacter '\n' = false),
    Text.dropWhile_line (by decide : isNameCharacter '\n' = false), pseudoArgument_line]
  cases pseudoArgument (text.takeWhile isNameCharacter) (text.dropWhile isNameCharacter) with
  | error stop => rfl
  | ok pair =>
    simp only [followed, bind, Except.bind]
    split <;> rfl

/-- `fraction` looks at two characters, a mark and a digit, and the text may end before either of
them; hence the three cases. -/
lemma fraction_append_stop
    (stops : ∀ c ∈ below.head?, ¬ (c.isDigit = true ∨ c = '.' ∨ c = '/')) :
    fraction (text ++ below) = ((fraction text).1, (fraction text).2 ++ below) := by
  have noDigit : ∀ c ∈ below.head?, c.isDigit = false := fun c first =>
    Bool.eq_false_iff.2 fun digit => stops c first (.inl digit)
  rcases text with _ | ⟨mark, _ | ⟨digit, rest⟩⟩
  · rcases below with _ | ⟨mark, _ | ⟨digit, rest⟩⟩
    · rfl
    · rfl
    · have noMark : ¬ ((mark = '.' ∨ mark = '/') ∧ digit.isDigit) := fun both =>
        stops mark rfl (.inr both.1)
      simp [fraction, noMark]
  · rcases below with _ | ⟨digit, rest⟩
    · rfl
    · simp [fraction, noDigit digit rfl]
  · simp only [List.cons_append, fraction, Text.takeWhile_append_stop noDigit,
      Text.dropWhile_append_stop noDigit]
    split <;> rfl

/-- One hypothesis for the sign, the digits, the fraction and the letters of a number, since each of
them may be left out and the next one be met first. -/
lemma number_append_stop (stops : ∀ c ∈ below.head?,
    ¬ (c.isAlpha = true ∨ c.isDigit = true ∨ c = '-' ∨ c = '.' ∨ c = '/')) :
    number (text ++ below) = followed below (number text) := by
  have noLetter : ∀ c ∈ below.head?, c.isAlpha = false := fun c first =>
    Bool.eq_false_iff.2 fun letter => stops c first (.inl letter)
  have noDigit : ∀ c ∈ below.head?, c.isDigit = false := fun c first =>
    Bool.eq_false_iff.2 fun digit => stops c first (.inr (.inl digit))
  have noSign : below.head? ≠ some '-' := fun first => stops '-' first (.inr (.inr (.inl rfl)))
  have noFraction : ∀ c ∈ below.head?, ¬ (c.isDigit = true ∨ c = '.' ∨ c = '/') := by
    rintro c first (digit | mark)
    · exact stops c first (.inr (.inl digit))
    · exact stops c first (.inr (.inr (.inr mark)))
  simp only [number, Text.skip_append fun _ => noSign, Text.head?_append_stop noSign,
    Text.takeWhile_append_stop noDigit, Text.dropWhile_append_stop noDigit,
    fraction_append_stop noFraction, Text.takeWhile_append_stop noLetter,
    Text.dropWhile_append_stop noLetter]
  split
  · split <;> rfl
  · rfl

lemma number_line : number (text ++ '\n' :: below) = followed ('\n' :: below) (number text) :=
  number_append_stop (by rintro c ⟨⟩; decide)

lemma color_append_stop (stops : ∀ c ∈ below.head?, Numeral.isHexDigit c = false) :
    color (text ++ below) = ((color text).1, (color text).2 ++ below) := by
  have short : ((text.takeWhile Numeral.isHexDigit).take colorDigits).length ≤ text.length :=
    Nat.le_trans (List.length_take_le' _ _) (List.takeWhile_sublist _).length_le
  simp only [color, Text.takeWhile_append_stop stops, List.drop_append_of_le_length short]

lemma color_line :
    color (text ++ '\n' :: below) = ((color text).1, (color text).2 ++ '\n' :: below) :=
  color_append_stop (by rintro c ⟨⟩; decide)

lemma unitReference_line {unit : Text} :
    unitReference unit (text ++ '\n' :: below) =
      followed ('\n' :: below) (unitReference unit text) := by
  unfold unitReference
  rw [Text.dropWhile_line (by decide)]
  cases text.dropWhile isGap with
  | nil => rfl
  | cons d rest =>
    by_cases brace : d = '{'
    · simp only [brace, List.cons_append, bracedName_line]
      cases bracedName rest with
      | error stop => rfl
      | ok pair => rfl
    · simp [followed, brace]

lemma assigned_line :
    assigned (text ++ '\n' :: below) = followed ('\n' :: below) (assigned text) := by
  cases text with
  | nil => rfl
  | cons d text =>
    rw [List.cons_append, assigned, assigned]
    simp only [Text.head?_line (by decide : '/' ≠ '\n'), variableRef_line, color_line,
      Text.takeWhile_line (by decide : isWordPart '\n' = false),
      Text.dropWhile_line (by decide : isWordPart '\n' = false), unitReference_line]
    rw [← List.cons_append, beginsNumber_line, number_line]
    split
    · rfl
    split
    · rfl
    split
    · rfl
    split
    · rfl
    split
    · split <;> rfl
    · rfl

lemma one_followed (tail : Text) (read : Except Stop (Token × Text)) :
    one (followed tail read) = followed tail (one read) := by
  cases read with
  | error stop => rfl
  | ok pair => rfl

lemma construct_line {prior : List Token} :
    construct prior c (text ++ '\n' :: below) =
      followed ('\n' :: below) (construct prior c text) := by
  unfold construct
  simp only [media_line, identifier_line, pseudoClass_line, variableRef_line, color_line,
    Text.takeWhile_line (by decide : isWordPart '\n' = false),
    Text.dropWhile_line (by decide : isWordPart '\n' = false),
    Text.dropWhile_line (by decide : isGap '\n' = false), assigned_line]
  rw [← List.cons_append, beginsNumber_line, number_line]
  split
  · exact one_followed _ _
  split
  · exact one_followed _ _
  split
  · exact one_followed _ _
  split
  · exact one_followed _ _
  split
  · rfl
  split
  · rfl
  split
  · exact one_followed _ _
  split
  · rfl
  split
  · cases assigned (text.dropWhile isGap) with
    | error stop => rfl
    | ok pair => rfl
  · rfl

/-! ## Layer markers -/

/-- If nothing but gaps is left of the marker's line, the line end behind the text is taken along;
this is the one place where a reader goes beyond the end of its line. -/
lemma finishLine_line :
    finishLine (text ++ '\n' :: below) =
      if text.dropWhile isGap = [] then below else finishLine text ++ '\n' :: below := by
  unfold finishLine
  rw [Text.dropWhile_line (by decide)]
  cases text.dropWhile isGap with
  | nil => rfl
  | cons d rest =>
    simp only [List.cons_append, Text.skip, reduceCtorEq, if_false]
    split <;> rfl

/-- The quantifier over `below` stands inside: whether the line end is taken along is settled by
`text`, and `tokensFrom_line` needs the same case for all lines below. -/
lemma layerMarker_line (text : Text) :
    (∀ below, layerMarker (text ++ '\n' :: below) = followed ('\n' :: below) (layerMarker text)) ∨
      ∃ name edge, layerMarker text = .ok (.layer name edge, []) ∧
        ∀ below, layerMarker (text ++ '\n' :: below) = .ok (.layer name edge, below) := by
  simp only [layerMarker, Text.dropWhile_line (by decide : isGap '\n' = false),
    Text.takeWhile_line (p := fun c => !isBlank c) (by decide),
    Text.dropWhile_line (p := fun c => !isBlank c) (by decide)]
  split
  · exact .inl fun _ => rfl
  split
  · exact .inl fun _ => rfl
  · rename_i edge _
    simp only [finishLine_line]
    split
    · rename_i ended
      refine .inr ⟨_, edge, ?_, fun _ => rfl⟩
      simp only [finishLine, ended, Text.skip]
    · exact .inl fun _ => rfl

/-! ## A step, and the whole source -/

lemma step_line (prior : List Token) (c : Char) (text : Text) :
    (∀ below, step prior c (text ++ '\n' :: below) =
        followed ('\n' :: below) (step prior c text)) ∨
      ∃ name edge, step prior c text = .ok ([.layer name edge], []) ∧
        ∀ below, step prior c (text ++ '\n' :: below) = .ok ([.layer name edge], below) := by
  unfold step
  simp only [Text.head?_line (by decide : '/' ≠ '\n')]
  split
  · exact .inl fun _ => rfl
  split
  · rename_i slashes
    obtain ⟨tail, rfl⟩ := List.head?_eq_some_iff.1 slashes.2
    simp only [List.cons_append, List.tail_cons, comment_line]
    exact .inl fun _ => rfl
  split
  · exact .inl fun _ => rfl
  simp only [← List.cons_append, Text.after?_line (by decide : '\n' ∉ layerKeyword)]
  cases Text.after? layerKeyword (c :: text) with
  | none => exact .inl fun _ => construct_line
  | some marker =>
    simp only [Option.map_some]
    rcases layerMarker_line marker with same | ⟨name, edge, read, longer⟩
    · simp only [same]
      exact .inl fun _ => one_followed _ _
    · simp only [read, longer]
      exact .inr ⟨name, edge, rfl, fun _ => rfl⟩

variable {prior new : List Token}

lemma tokensFrom_of_step {emitted : List Token}
    (taken : step prior c text = .ok (emitted, rest)) :
    tokensFrom prior (c :: text) = tokensFrom (emitted.reverse ++ prior) rest := by
  rw [tokensFrom]
  split
  · rename_i stop failed
    simp [taken] at failed
  · rename_i emitted' rest' same
    obtain ⟨rfl, rfl⟩ : emitted = emitted' ∧ rest = rest' := by simpa [taken] using same
    rfl

lemma tokensFrom_of_step_error {stop : Stop} (failed : step prior c text = .error stop) :
    tokensFrom prior (c :: text) = .error stop := by
  rw [tokensFrom]
  split
  · rename_i found same
    rw [Except.error.inj (same.symm.trans failed)]
  · rename_i taken
    simp [failed] at taken

lemma tokensFrom_newline :
    tokensFrom prior ('\n' :: below) = tokensFrom (.newline :: prior) below := by
  have lineEnd : step prior '\n' below = .ok ([.newline], below) := by simp [step, isGap]
  exact tokensFrom_of_step lineEnd

lemma tokensFrom_gap (gap : isGap c = true) :
    tokensFrom prior (c :: below) = tokensFrom prior below := by
  have passed : step prior c below = .ok ([], below) := by rw [step, if_pos gap]
  exact tokensFrom_of_step passed

/-- `tokensFrom` gathers in reverse and turns the list at its end, so that the tokens of `prior` are
never touched again. -/
lemma tokensFrom_extends {read : List Token} (h : tokensFrom prior text = .ok read) :
    ∃ new, read = prior.reverse ++ new := by
  fun_induction tokensFrom prior text with
  | case1 prior =>
    obtain rfl := Except.ok.inj h
    exact ⟨[], by simp⟩
  | case2 => simp at h
  | case3 prior c text emitted rest taken ih =>
    obtain ⟨new, rfl⟩ := ih h
    exact ⟨emitted ++ new, by simp⟩

/-- Induction on the reading with `step_line`.  The line end gives a token, unless the first part
ends in a layer marker, which takes it along. -/
theorem tokensFrom_line (h : tokensFrom prior text = .ok (prior.reverse ++ new)) :
    (∀ below, tokensFrom prior (text ++ '\n' :: below) =
        tokensFrom (.newline :: (new.reverse ++ prior)) below) ∨
      (∃ before name edge, new = before ++ [.layer name edge]) ∧
        ∀ below, tokensFrom prior (text ++ '\n' :: below) =
          tokensFrom (new.reverse ++ prior) below := by
  fun_induction tokensFrom prior text generalizing new with
  | case1 prior =>
    obtain rfl : new = [] := by simpa using h
    exact .inl fun _ => tokensFrom_newline
  | case2 => simp at h
  | case3 prior c text emitted rest taken ih =>
    obtain ⟨later, same⟩ := tokensFrom_extends h
    obtain rfl : new = emitted ++ later := by simpa using same
    rcases step_line prior c text with longer | ⟨name, edge, marker, longer⟩
    · rw [taken] at longer
      simp only [List.cons_append, tokensFrom_of_step (longer _), List.reverse_append,
        List.append_assoc]
      rcases ih (same ▸ h) with onward | ⟨⟨before, name, edge, rfl⟩, onward⟩
      · exact .inl onward
      · exact .inr ⟨⟨emitted ++ before, name, edge, by simp⟩, onward⟩
    · -- The marker is the last thing on the first part, so nothing else comes after it.
      obtain ⟨rfl, rfl⟩ : emitted = [.layer name edge] ∧ rest = [] := by
        simpa [taken] using marker
      obtain rfl : later = [] := by simpa [tokensFrom] using h
      exact .inr ⟨⟨[], name, edge, rfl⟩, fun below => tokensFrom_of_step (longer below)⟩

/-- The first case of `tokensFrom_line`, as the second one needs a marker. -/
lemma tokensFrom_line_of_ok (h : tokensFrom prior text = .ok (prior.reverse ++ new))
    (plain : ∀ name edge, .layer name edge ∉ new) :
    tokensFrom prior (text ++ '\n' :: below) =
      tokensFrom (.newline :: (new.reverse ++ prior)) below := by
  rcases tokensFrom_line h with lineEnd | ⟨⟨before, name, edge, rfl⟩, -⟩
  · exact lineEnd below
  · exact absurd (by simp) (plain name edge)

/-- A step that fails leaves the lines below it unread (`step_line`), so that the fault is the same
and `stop.rest` is longer by them. -/
theorem tokensFrom_line_of_error {stop : Stop} (h : tokensFrom prior text = .error stop) :
    tokensFrom prior (text ++ '\n' :: below) = .error ⟨stop.fault, stop.rest ++ '\n' :: below⟩ := by
  fun_induction tokensFrom prior text with
  | case1 => simp at h
  | case2 prior c text found taken =>
    obtain rfl := Except.error.inj h
    rcases step_line prior c text with longer | ⟨name, edge, marker, -⟩
    · rw [taken] at longer
      exact tokensFrom_of_step_error (longer below)
    · simp [taken] at marker
  | case3 prior c text emitted rest taken ih =>
    rcases step_line prior c text with longer | ⟨name, edge, marker, -⟩
    · rw [taken] at longer
      rw [List.cons_append, tokensFrom_of_step (longer below), ih h]
    · obtain ⟨rfl, rfl⟩ : emitted = [.layer name edge] ∧ rest = [] := by
        simpa [taken] using marker
      simp [tokensFrom] at h

lemma tokensFrom_of_tokens {source : Text} {tokens : List Token}
    (h : Lexer.tokens source = .ok tokens) : tokensFrom [] source = .ok tokens := by
  unfold Lexer.tokens at h
  split at h
  · simp at h
  · rename_i read found
    rw [found, Except.ok.inj h]

lemma tokens_of_tokensFrom {source : Text} {tokens : List Token}
    (h : tokensFrom [] source = .ok tokens) : Lexer.tokens source = .ok tokens := by
  rw [Lexer.tokens, h]

end Lexer

end UtilityCss
