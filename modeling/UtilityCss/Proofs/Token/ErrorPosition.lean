import Mathlib.Data.List.DropRight
import UtilityCss.Proofs.Token.Lines
import UtilityCss.Proofs.Token.Stream

/-!
# Where a source is refused

The lexer counts lines and columns as it goes from character to character.  Wherever it stands, the
line is one more than the line ends behind it and the column one more than the characters since the
last of them (`Position.after_eq`).

A construct that is refused is refused on the line that it begins on, behind its first character and
not behind the end of its line (`Lexer.tokens_position`).  Two facts about the one step that fails
give this: a reader that refuses its text has left the character that called it behind
(`step_error`), and it has not crossed a line end, since what it makes of a text does not depend on
the lines below (`step_error_oneLine`).
-/

namespace UtilityCss

/-! ## Lines of a text -/

namespace Text

/-- The characters behind the last line end. -/
def lastLine (text : Text) : Text := text.rtakeWhile (· != '\n')

lemma lastLine_concat (text : Text) (c : Char) :
    lastLine (text ++ [c]) = if c = '\n' then [] else lastLine text ++ [c] := by
  by_cases lineEnd : c = '\n' <;> simp [lastLine, lineEnd]

/-- `lastLine_concat` character by character; a column is counted by `lastLine`, so that it grows by
the characters that are read. -/
lemma lastLine_append {line : Text} (text : Text) (oneLine : '\n' ∉ line) :
    lastLine (text ++ line) = lastLine text ++ line := by
  induction line using List.reverseRecOn with
  | nil => simp
  | append_singleton line c ih =>
    obtain ⟨inner, other⟩ : '\n' ∉ line ∧ c ≠ '\n' := by simpa [eq_comm] using oneLine
    rw [← List.append_assoc, lastLine_concat, if_neg other, ih inner, List.append_assoc]

lemma length_splitOn (text : Text) : (text.splitOn '\n').length = text.count '\n' + 1 := by
  induction text with
  | nil => rfl
  | cons c text ih =>
    rw [List.splitOn_cons_eq_if_modifyHead, List.count_cons]
    split <;> simp [ih]

lemma head?_splitOn (text : Text) :
    (text.splitOn '\n').head? = some (text.takeWhile (· != '\n')) := by
  induction text with
  | nil => rfl
  | cons c text ih =>
    rw [List.splitOn_cons_eq_if_modifyHead, List.takeWhile_cons]
    by_cases lineEnd : c = '\n'
    · simp [lineEnd]
    · simp [lineEnd, ih]

/-- Lines are numbered by the line ends before them, so the index is the number of those in `text`;
the line goes on into `below` up to its first line end. -/
lemma getElem?_splitOn (text below : Text) :
    ((text ++ below).splitOn '\n')[text.count '\n']? =
      some (text.lastLine ++ below.takeWhile (· != '\n')) := by
  induction text using List.reverseRecOn generalizing below with
  | nil => exact List.head?_eq_getElem?.symm.trans (head?_splitOn below)
  | append_singleton text c ih =>
    rw [lastLine_concat]
    by_cases lineEnd : c = '\n'
    · have index : (text ++ [c]).count '\n' = (text.splitOn '\n').length := by
        simp [lineEnd, length_splitOn]
      rw [index, if_pos lineEnd, List.append_assoc, lineEnd, List.singleton_append,
        List.splitOn_append_cons_self, List.getElem?_append_right (Nat.le_refl _), Nat.sub_self,
        ← List.head?_eq_getElem?, head?_splitOn, List.nil_append]
    · have same : (text ++ [c]).count '\n' = text.count '\n' := by simp [lineEnd]
      rw [same, if_neg lineEnd, List.append_assoc, List.singleton_append, ih,
        List.takeWhile_cons_of_pos (by simpa using lineEnd), List.append_assoc,
        List.singleton_append]

end Text

/-! ## Counting -/

namespace Position

/-- `Position.after` counts character by character; here it is said by the text alone, with no count
that is carried along. -/
theorem after_eq (consumed : Text) :
    after consumed = ⟨1 + consumed.count '\n', 1 + consumed.lastLine.length⟩ := by
  induction consumed using List.reverseRecOn with
  | nil => rfl
  | append_singleton consumed c ih =>
    have next : after (consumed ++ [c]) = (after consumed).advance c := by
      simp [after]
    rw [next, ih, advance, Text.lastLine_concat]
    split
    · rename_i lineEnd
      simp [lineEnd]
      omega
    · rename_i other
      simp [other]
      omega

end Position

/-! ## The construct that is refused -/

/-- The characters that a refused construct may begin with: the one that its token begins with, or
the equals sign if the token is a value that is missing or bad. -/
def LexFault.Opens : LexFault → Char → Prop
  | .missingValue, c => c = '='
  | .unnamedLayer, c => c = 'L'
  | .unknownLayerAction _, c => c = 'L'
  | .unterminatedBrace, c => c = '{' ∨ c = '@' ∨ c = '='
  | .unknownUnit _, c => c = '{' ∨ c = '='
  | .missingMediaWidth, c => c = '@'
  | .unknownIdentifier _, c => c = '$'
  | .unbalancedPseudoClass _, c => c = ':'
  | .unknownPseudoClass _, c => c = ':'
  | .missingReference _, c => c = '='
  | .unknownValueFormat _, c => c = '='
  | .integerTooLong _, c => c.isDigit = true ∨ c = '-' ∨ c = '.' ∨ c = '='

namespace Lexer

variable {prior : List Token} {c : Char} {text rest : Text} {stop : Stop}

/-! ### Faults of readers -/

lemma opens_of_bracedName (failed : bracedName text = .error stop)
    (opener : c = '{' ∨ c = '@' ∨ c = '=') : stop.fault.Opens c := by
  simp only [bracedName] at failed
  split at failed
  · simp at failed
  · obtain rfl := Except.error.inj failed
    exact opener

lemma opens_of_variableRef (failed : variableRef text = .error stop)
    (opener : c = '{' ∨ c = '=') : stop.fault.Opens c := by
  unfold variableRef at failed
  rcases bind_eq_error_iff.1 failed with braced | ⟨⟨name, rest⟩, -, failed⟩
  · exact opens_of_bracedName braced (opener.imp_right .inr)
  dsimp only at failed
  split at failed
  · simp at failed
  split at failed
  · simp at failed
  split at failed
  · simp at failed
  · obtain rfl := Except.error.inj failed
    exact opener

lemma opens_of_media (failed : media text = .error stop) : stop.fault.Opens '@' := by
  unfold media at failed
  split at failed
  · rcases bind_eq_error_iff.1 failed with braced | ⟨pair, -, failed⟩
    · exact opens_of_bracedName braced (.inr (.inl rfl))
    · simp at failed
  · dsimp only at failed
    split at failed
    · obtain rfl := Except.error.inj failed
      rfl
    · simp at failed

lemma opens_of_identifier (failed : identifier text = .error stop) : stop.fault.Opens '$' := by
  simp only [identifier] at failed
  split at failed
  · simp at failed
  · obtain rfl := Except.error.inj failed
    rfl

lemma opens_of_pseudoClass (failed : pseudoClass text = .error stop) : stop.fault.Opens ':' := by
  unfold pseudoClass at failed
  rcases bind_eq_error_iff.1 failed with unbalanced | ⟨⟨argument, rest⟩, -, failed⟩
  · unfold pseudoArgument at unbalanced
    split at unbalanced
    · split at unbalanced
      · obtain rfl := Except.error.inj unbalanced
        rfl
      · simp at unbalanced
    · simp at unbalanced
  · dsimp only at failed
    split at failed
    · simp at failed
    · obtain rfl := Except.error.inj failed
      rfl

lemma opens_of_number (failed : number text = .error stop)
    (opener : c.isDigit = true ∨ c = '-' ∨ c = '.' ∨ c = '=') : stop.fault.Opens c := by
  simp only [number] at failed
  split at failed
  · split at failed
    · obtain rfl := Except.error.inj failed
      exact opener
    · simp at failed
  · simp at failed

lemma opens_of_layerMarker (failed : layerMarker text = .error stop) :
    stop.fault.Opens 'L' := by
  simp only [layerMarker] at failed
  split at failed
  · obtain rfl := Except.error.inj failed
    rfl
  split at failed
  · obtain rfl := Except.error.inj failed
    rfl
  · simp at failed

lemma opens_of_unitReference {unit : Text} (failed : unitReference unit text = .error stop) :
    stop.fault.Opens '=' := by
  unfold unitReference at failed
  split at failed
  · rcases bind_eq_error_iff.1 failed with braced | ⟨pair, -, failed⟩
    · exact opens_of_bracedName braced (.inr (.inr rfl))
    · simp at failed
  · obtain rfl := Except.error.inj failed
    rfl

lemma opens_of_assigned (failed : assigned text = .error stop) : stop.fault.Opens '=' := by
  unfold assigned at failed
  split at failed
  · obtain rfl := Except.error.inj failed
    rfl
  split at failed
  · obtain rfl := Except.error.inj failed
    rfl
  split at failed
  · exact opens_of_variableRef failed (.inr rfl)
  split at failed
  · simp at failed
  split at failed
  · exact opens_of_number failed (.inr (.inr (.inr rfl)))
  split at failed
  · dsimp only at failed
    split at failed
    · exact opens_of_unitReference failed
    · simp at failed
  · obtain rfl := Except.error.inj failed
    rfl

/-! ### The step that fails -/

/-- The one fault of `number` is an integer with too many digits, so there were digits, and a reader
that stopped before its first character would have read none. -/
lemma number_error_suffix (failed : number (c :: text) = .error stop) : stop.rest <:+ text := by
  have left : stop.rest <:+ c :: text := by
    have left := number_suffix (c :: text)
    rwa [failed] at left
  refine (List.suffix_cons_iff.1 left).resolve_left fun all => ?_
  simp only [number] at failed
  split at failed
  · split at failed
    · rename_i e tooLong
      have digits : (Text.skip '-' (c :: text)).takeWhile Char.isDigit ≠ [] := by
        intro none
        rw [none] at tooLong
        split at tooLong <;> simp [Numeral.integer, Numeral.natural, Except.map] at tooLong
      have whole := congrArg List.length
        (List.takeWhile_append_dropWhile (p := Char.isDigit) (l := Text.skip '-' (c :: text)))
      have short := Text.length_skip_le '-' (c :: text)
      have dropped := fraction_length_le ((Text.skip '-' (c :: text)).dropWhile Char.isDigit)
      have behind := Text.length_dropWhile_le Char.isAlpha
        (fraction ((Text.skip '-' (c :: text)).dropWhile Char.isDigit)).2
      have some := List.length_pos_iff.2 digits
      obtain rfl := Except.error.inj failed
      rw [List.length_append] at whole
      dsimp only at all
      rw [all] at behind
      omega
    · simp at failed
  · simp at failed

lemma one_error {read : Except Stop (Token × Text)} (left : unread read <:+ text)
    (failed : one read = .error stop) : read = .error stop ∧ stop.rest <:+ text := by
  have failed := map_eq_error_iff.1 failed
  rw [failed] at left
  exact ⟨failed, left⟩

lemma construct_error (failed : construct prior c text = .error stop) :
    stop.fault.Opens c ∧ stop.rest <:+ text := by
  unfold construct at failed
  split at failed
  · rename_i opener
    obtain ⟨failed, left⟩ := one_error (media_suffix text) failed
    exact ⟨opener ▸ opens_of_media failed, left⟩
  split at failed
  · rename_i opener
    obtain ⟨failed, left⟩ := one_error (identifier_suffix text) failed
    exact ⟨opener ▸ opens_of_identifier failed, left⟩
  split at failed
  · rename_i opener
    obtain ⟨failed, left⟩ := one_error (pseudoClass_suffix text) failed
    exact ⟨opener ▸ opens_of_pseudoClass failed, left⟩
  split at failed
  · rename_i begins
    obtain ⟨failed, -⟩ := one_error (number_suffix _) failed
    have opener : c.isDigit = true ∨ c = '-' ∨ c = '.' ∨ c = '=' := by
      rcases beginsNumber_head begins with digit | sign | point
      · exact .inl digit
      · exact .inr (.inl sign)
      · exact .inr (.inr (.inl point))
    exact ⟨opens_of_number failed opener, number_error_suffix failed⟩
  split at failed
  · simp at failed
  split at failed
  · simp at failed
  split at failed
  · rename_i opener
    obtain ⟨failed, left⟩ := one_error (variableRef_suffix text) failed
    exact ⟨opens_of_variableRef failed (.inl opener), left⟩
  split at failed
  · simp [one, Except.map] at failed
  split at failed
  · rename_i opener
    have failed := map_eq_error_iff.1 failed
    have left := assigned_suffix (text.dropWhile isGap)
    rw [failed] at left
    exact ⟨opener ▸ opens_of_assigned failed, left.trans (List.dropWhile_suffix _)⟩
  · simp at failed

/-- The fault determines its opener (`LexFault.Opens`), by one lemma for each reader.  That the
first character has been read is clear for all readers but that of numbers, which is given this
character itself (`number_error_suffix`). -/
theorem step_error (failed : step prior c text = .error stop) :
    stop.fault.Opens c ∧ stop.rest <:+ text := by
  unfold step at failed
  split at failed
  · simp at failed
  split at failed
  · simp [one, Except.map] at failed
  split at failed
  · simp at failed
  cases found : Text.after? layerKeyword (c :: text) with
  | none =>
    rw [found] at failed
    exact construct_error failed
  | some marker =>
    rw [found] at failed
    obtain ⟨refused, left⟩ := one_error (layerMarker_suffix marker) failed
    obtain ⟨rfl, rfl⟩ := List.cons.inj (Text.after?_eq_some found)
    exact ⟨opens_of_layerMarker refused, left.trans (List.suffix_append _ _)⟩

/-- `step_line` cuts the text at the end of the line: the step fails on the line alone and leaves an
end of it (`step_error`), with the lines below behind that. -/
theorem step_error_oneLine (failed : step prior c text = .error stop) :
    ∃ read, text = read ++ stop.rest ∧ '\n' ∉ c :: read := by
  have started : c ≠ '\n' := by
    rintro rfl
    simp [step, isGap] at failed
  have line : '\n' ∉ text.takeWhile (· != '\n') := fun mem => by
    simpa using List.mem_takeWhile_imp mem
  have whole := List.takeWhile_append_dropWhile (p := (· != '\n')) (l := text)
  have inside {read : Text} (part : read <+: text.takeWhile (· != '\n')) : '\n' ∉ c :: read := by
    simpa using ⟨started.symm, fun mem => line (part.mem mem)⟩
  cases below : text.dropWhile (· != '\n') with
  | nil =>
    obtain ⟨read, split⟩ := (step_error failed).2
    rw [below, List.append_nil] at whole
    exact ⟨read, split.symm, inside ⟨stop.rest, split.trans whole.symm⟩⟩
  | cons d tail =>
    obtain rfl : d = '\n' := by
      have ended := List.head?_dropWhile_not (· != '\n') text
      rw [below] at ended
      simpa using ended
    rw [below] at whole
    rcases step_line prior c (text.takeWhile (· != '\n')) with longer | ⟨name, edge, -, longer⟩
    · have longer := longer tail
      rw [whole, failed] at longer
      cases alone : step prior c (text.takeWhile (· != '\n')) with
      | ok pair => simp [alone, followed] at longer
      | error earlier =>
        rw [alone] at longer
        obtain rfl : stop = ⟨earlier.fault, earlier.rest ++ '\n' :: tail⟩ := Except.error.inj longer
        obtain ⟨read, split⟩ := (step_error alone).2
        refine ⟨read, ?_, inside ⟨earlier.rest, split⟩⟩
        rw [← List.append_assoc, split, whole]
    · have longer := longer tail
      rw [whole, failed] at longer
      simp at longer

/-! ## Readings -/

/-- A state in the reading of a source: the position, the tokens read so far, the last one first,
and the text that is still unread.  The position goes along with every character that is read. -/
inductive Reached (source : Text) : Position → List Token → Text → Prop
  | start : Reached source .start [] source
  | next {position : Position} {prior emitted : List Token} {c : Char} {text rest read : Text}
      (before : Reached source position prior (c :: text))
      (taken : step prior c text = .ok (emitted, rest)) (split : c :: text = read ++ rest) :
      Reached source (read.foldl Position.advance position) (emitted.reverse ++ prior) rest

variable {source : Text} {position : Position}

lemma Reached.step {emitted : List Token}
    (reached : Reached source position prior (c :: text))
    (taken : Lexer.step prior c text = .ok (emitted, rest)) :
    ∃ further, Reached source further (emitted.reverse ++ prior) rest := by
  have left := step_suffix prior c text
  rw [taken] at left
  obtain ⟨read, split⟩ := left
  exact ⟨_, reached.next taken split.symm⟩

lemma Reached.consumed (reached : Reached source position prior rest) :
    ∃ consumed, source = consumed ++ rest ∧ position = Position.after consumed := by
  induction reached with
  | start => exact ⟨[], rfl, rfl⟩
  | @next position prior emitted c text rest read before taken split ih =>
    obtain ⟨consumed, rfl, rfl⟩ := ih
    exact ⟨consumed ++ read, by rw [split, List.append_assoc], by simp [Position.after]⟩

lemma Reached.head_ne_equals (reached : Reached source position prior rest) :
    prior.head? ≠ some .equals := by
  induction reached with
  | start => simp
  | next before taken split ih => exact head_ne_equals_of_step ih taken

/-- `Reached` follows the recursion of `tokensFrom`, which fails only where a step does. -/
lemma exists_reached_of_error (reached : Reached source position prior text)
    (failed : tokensFrom prior text = .error stop) :
    ∃ start prior c text, Reached source start prior (c :: text) ∧
      step prior c text = .error stop := by
  fun_induction tokensFrom prior text generalizing position with
  | case1 => simp at failed
  | case2 prior c text found taken =>
    obtain rfl := Except.error.inj failed
    exact ⟨position, prior, c, text, reached, taken⟩
  | case3 prior c text emitted rest taken ih =>
    obtain ⟨_, further⟩ := reached.step taken
    exact ih further failed

/-- `Reached` speaks of the places between constructs; a fault lies inside of one, `read` characters
further on. -/
lemma Reached.advance {read left : Text}
    (reached : Reached source position prior (read ++ left)) :
    ∃ consumed, source = consumed ++ left ∧
      read.foldl Position.advance position = Position.after consumed := by
  obtain ⟨consumed, rfl, rfl⟩ := reached.consumed
  exact ⟨consumed ++ read, by rw [List.append_assoc], by simp [Position.after]⟩

/-- `Position.after_eq` at the start of the construct and at the fault; between them there is no
line end (`step_error_oneLine`), so that only the column differs, by the characters read. -/
lemma position_of_step_error {found : Position}
    (reached : Reached source position prior (c :: text))
    (failed : step prior c text = .error stop)
    (place : found = Position.after (source.take (source.length - stop.rest.length))) :
    (∃ read, c :: text = read ++ stop.rest ∧ found = read.foldl Position.advance position) ∧
      found.line = position.line ∧ position.column < found.column ∧
      ∃ line, (source.splitOn '\n')[found.line - 1]? = some line ∧
        found.column ≤ line.length + 1 := by
  obtain ⟨read, rfl, oneLine⟩ := step_error_oneLine failed
  obtain ⟨consumed, rfl, rfl⟩ := reached.consumed
  have taken : (consumed ++ c :: (read ++ stop.rest)).take
      ((consumed ++ c :: (read ++ stop.rest)).length - stop.rest.length) =
        consumed ++ c :: read := by
    rw [← List.cons_append, ← List.append_assoc, List.length_append, Nat.add_sub_cancel,
      List.take_left]
  rw [taken] at place
  have counted : found =
      ⟨1 + consumed.count '\n', 1 + (consumed.lastLine.length + (c :: read).length)⟩ := by
    rw [place, Position.after_eq, List.count_append, List.count_eq_zero.2 oneLine,
      Text.lastLine_append consumed oneLine, List.length_append, Nat.add_zero]
  have solid : ∀ d ∈ c :: read, (d != '\n') = true :=
    fun d mem => bne_iff_ne.2 (ne_of_mem_of_not_mem mem oneLine)
  have line := Text.getElem?_splitOn consumed (c :: read ++ stop.rest)
  rw [List.takeWhile_append_of_pos solid] at line
  refine ⟨⟨c :: read, rfl, by rw [place]; simp [Position.after]⟩, ?_⟩
  rw [counted, Position.after_eq]
  refine ⟨rfl, by simp, _, by simpa using line, ?_⟩
  simp only [List.length_append, List.length_cons]
  omega

/-- Where a source is read (`Reached`), lines and columns count the line ends and the characters
since the last of them.  A source that is refused is refused at a construct that cannot be read: the
fault lies on the line of that construct, behind its first character, and not beyond the end of the
line.  The construct begins with the equals sign where its value is missing or bad
(`LexFault.Opens`). -/
theorem tokens_position (source : Text) :
    (∀ position prior rest, Reached source position prior rest →
      ∀ read left, rest = read ++ left → ∃ consumed, source = consumed ++ left ∧
        read.foldl Position.advance position =
          ⟨1 + consumed.count '\n', 1 + consumed.lastLine.length⟩) ∧
    ∀ e, tokens source = .error e →
      ∃ start prior c text left, Reached source start prior (c :: text) ∧
        step prior c text = .error ⟨e.fault, left⟩ ∧ e.fault.Opens c ∧
        prior.head? ≠ some .equals ∧
        (∃ read, c :: text = read ++ left ∧ e.position = read.foldl Position.advance start) ∧
        e.position.line = start.line ∧ start.column < e.position.column ∧
        ∃ line, (source.splitOn '\n')[e.position.line - 1]? = some line ∧
          e.position.column ≤ line.length + 1 := by
  constructor
  · rintro position prior rest reached read left rfl
    obtain ⟨consumed, split, place⟩ := reached.advance
    exact ⟨consumed, split, by rw [place, Position.after_eq]⟩
  · intro e failed
    obtain ⟨stop, stopped, rfl⟩ := tokens_eq_error failed
    obtain ⟨start, prior, c, text, reached, refused⟩ := exists_reached_of_error .start stopped
    exact ⟨start, prior, c, text, stop.rest, reached, refused, (step_error refused).1,
      reached.head_ne_equals, position_of_step_error reached refused rfl⟩

/-- On the second line a value of unknown form stands behind an equals sign and blanks. -/
theorem tokens_position_badValue :
    let source : Text := "%\n =  ;"
    Reached source ⟨1, 1⟩ [] source ∧
      (∃ consumed, source = consumed ++ ";".toList ∧
        "%\n =  ".toList.foldl Position.advance ⟨1, 1⟩ =
          ⟨1 + consumed.count '\n', 1 + consumed.lastLine.length⟩) ∧
      tokens source = .error ⟨.unknownValueFormat ';', ⟨2, 5⟩⟩ ∧
      ∃ start prior c text left, Reached source start prior (c :: text) ∧
        step prior c text = .error ⟨.unknownValueFormat ';', left⟩ ∧
        LexFault.Opens (.unknownValueFormat ';') c ∧ prior.head? ≠ some .equals ∧
        (∃ read, c :: text = read ++ left ∧ ⟨2, 5⟩ = read.foldl Position.advance start) ∧
        2 = start.line ∧ start.column < 5 ∧
        ∃ line, (source.splitOn '\n')[2 - 1]? = some line ∧ 5 ≤ line.length + 1 := by
  intro source
  have percent : step [] '%' "\n =  ;".toList = .ok ([.valueType "%"], "\n =  ;".toList) := rfl
  have gap (prior : List Token) (rest : Text) : step prior ' ' rest = .ok ([], rest) := rfl
  have value (prior : List Token) : step prior '=' "  ;".toList =
      .error ⟨.unknownValueFormat ';', [';']⟩ := rfl
  have stopped : tokensFrom [] source = .error ⟨.unknownValueFormat ';', [';']⟩ := calc
    _ = _ := tokensFrom_of_step percent
    _ = _ := tokensFrom_newline
    _ = _ := tokensFrom_of_step (gap _ _)
    _ = _ := tokensFrom_of_step_error (value _)
  have failed : tokens source = .error ⟨.unknownValueFormat ';', ⟨2, 5⟩⟩ :=
    tokens_of_tokensFrom_error stopped
  have begun : Reached source ⟨1, 1⟩ [] source := .start
  exact ⟨begun, (tokens_position source).1 _ _ _ begun "%\n =  " [';'] rfl, failed,
    (tokens_position source).2 _ failed⟩

end Lexer

end UtilityCss
