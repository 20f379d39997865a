import UtilityCss.Position
import UtilityCss.Text.Blank
import UtilityCss.Token.Classify

/-!
# From text to tokens

`Lexer.tokens` reads a source from left to right.  At each point the first character decides which
reader runs (`Lexer.step`); a reader takes the text after the character that called it and returns a
token with the text that is still unread.  A reader that refuses its text says why and what was
still unread (`Lexer.Stop`); the position of the error is the position behind everything read before
(`Position.after`).

No reader returns more text than it was given (the `_length_le` lemmas), which is why the reading
ends.
-/

namespace UtilityCss

/-! ## Errors -/

/-- Why a construct cannot be read. -/
inductive LexFault
  /-- There is no value after an equals sign. -/
  | missingValue
  /-- A layer marker has no name. -/
  | unnamedLayer
  /-- A layer marker says neither start nor end. -/
  | unknownLayerAction (action : Text)
  /-- A brace is not closed on its line. -/
  | unterminatedBrace
  /-- The word after a reference is no unit. -/
  | unknownUnit (unit : Text)
  /-- There is nothing after the sign of a media width. -/
  | missingMediaWidth
  /-- The word after a dollar sign is no suffix. -/
  | unknownIdentifier (name : Text)
  /-- The argument of a pseudo-class is not closed on its line. -/
  | unbalancedPseudoClass (name : Text)
  /-- The word after a colon is no pseudo-class. -/
  | unknownPseudoClass (name : Text)
  /-- A unit after an equals sign is not followed by a reference. -/
  | missingReference (unit : Text)
  /-- No value begins with this character. -/
  | unknownValueFormat (c : Char)
  /-- An integer has too many digits. -/
  | integerTooLong (e : IntegerTooLong)
deriving DecidableEq, Repr

/-- The wording of a fault, without its position. -/
def LexFault.message : LexFault → Text
  | .missingValue => "Expected a value after '='"
  | .unnamedLayer => "LAYER marker without a name"
  | .unknownLayerAction action => "Unknown LAYER action: " ++ action
  | .unterminatedBrace => "Unterminated '" ++ ['{'] ++ "'"
  | .unknownUnit unit => "Unknown unit: " ++ unit
  | .missingMediaWidth => "Expected a media width after '@'"
  | .unknownIdentifier name => "Unknown identifier: $" ++ name
  | .unbalancedPseudoClass name => "Unbalanced parentheses in pseudo-class :" ++ name
  | .unknownPseudoClass name => "Unknown pseudo-class: :" ++ name
  | .missingReference unit => "Expected a variable reference after unit " ++ unit
  | .unknownValueFormat c => "Unknown value format after '=': " ++ [c]
  | .integerTooLong e => e.message

/-- A fault and where it was found. -/
structure LexError where
  fault : LexFault
  position : Position
deriving DecidableEq, Repr

namespace Lexer

/-- A refused text: why, and what was still unread. -/
structure Stop where
  fault : LexFault
  rest : Text
deriving DecidableEq, Repr

/-! ## Characters -/

/-- A character of a name. -/
def isNameCharacter (c : Char) : Bool := c.isAlphanum || c == '_' || c == '-'

/-- A character of a bare word. -/
def isWordPart (c : Char) : Bool := isNameCharacter c || c == '@'

/-- A character that begins a bare word. -/
def beginsWord (c : Char) : Bool := c.isAlpha || c == '_' || c == '-'

/-- A number begins with a digit; a minus sign, a point or both may stand before it. -/
def beginsNumber (text : Text) : Bool :=
  (Text.skip '.' (Text.skip '-' text)).head?.any Char.isDigit

/-! ## Readers -/

/-- A comment, after its slashes: a star makes it public. -/
def comment (text : Text) : Token × Text :=
  let visibility := if text.head? = some '*' then .shown else .hidden
  let body := Text.skip '*' text
  (.comment visibility (Text.trim (body.takeWhile (· != '\n'))), body.dropWhile (· != '\n'))

/-- The line without its end, if nothing but gaps precedes that end. -/
def finishLine (text : Text) : Text := Text.skip '\n' (text.dropWhile isGap)

/-- A layer marker, after its keyword: a name, an end of the layer, and the end of the line. -/
def layerMarker (text : Text) : Except Stop (Token × Text) :=
  let text := text.dropWhile isGap
  let name := text.takeWhile (!isBlank ·)
  let text := (text.dropWhile (!isBlank ·)).dropWhile isGap
  let action := text.takeWhile (!isBlank ·)
  let text := text.dropWhile (!isBlank ·)
  if name = [] then .error ⟨.unnamedLayer, text⟩
  else
    match Edge.ofName? action with
    | none => .error ⟨.unknownLayerAction action, text⟩
    | some edge => .ok (.layer name edge, finishLine text)

/-- A name in braces, after the opening one. -/
def bracedName (text : Text) : Except Stop (Text × Text) :=
  let name := text.takeWhile fun c => c != '}' && c != '\n'
  let rest := text.dropWhile fun c => c != '}' && c != '\n'
  match rest with
  | '}' :: rest => .ok (Text.trim name, rest)
  | rest => .error ⟨.unterminatedBrace, rest⟩

/-- A reference, after its opening brace: a name in braces and an optional unit. -/
def variableRef (text : Text) : Except Stop (Token × Text) := do
  let (name, rest) ← bracedName text
  match rest with
  | '%' :: rest => .ok (.variableRef name (some "%"), rest)
  | rest =>
    let unit := rest.takeWhile Char.isAlpha
    let rest := rest.dropWhile Char.isAlpha
    if unit = [] then .ok (.variableRef name none, rest)
    else if unit ∈ Vocabulary.units then .ok (.variableRef name (some unit), rest)
    else .error ⟨.unknownUnit unit, rest⟩

/-- A media width, after its sign: a name in braces, or everything up to the next blank. -/
def media (text : Text) : Except Stop (Token × Text) :=
  match text with
  | '{' :: text => do
    let (name, rest) ← bracedName text
    .ok (.mediaVariableRef name, rest)
  | text =>
    let literal := text.takeWhile (!isBlank ·)
    let rest := text.dropWhile (!isBlank ·)
    if literal = [] then .error ⟨.missingMediaWidth, rest⟩ else .ok (.mediaValue literal, rest)

/-- A suffix, after its dollar sign. -/
def identifier (text : Text) : Except Stop (Token × Text) :=
  let name := text.takeWhile isNameCharacter
  let rest := text.dropWhile isNameCharacter
  if name ∈ Vocabulary.identifiers then .ok (.identifier name, rest)
  else .error ⟨.unknownIdentifier name, rest⟩

/-- The text up to the parenthesis that closes the argument, which is included; `opened` counts the
inner ones that are still open.  Where the line ends first, that is the error. -/
def argument (opened : Nat) : Text → Except Text (Text × Text)
  | [] => .error []
  | c :: rest =>
    if c = '\n' then .error (c :: rest)
    else if c = ')' ∧ opened = 0 then .ok ([c], rest)
    else
      let opened := if c = '(' then opened + 1 else if c = ')' then opened - 1 else opened
      match argument opened rest with
      | .error rest => .error rest
      | .ok (inner, rest) => .ok (c :: inner, rest)

/-- The argument of the named pseudo-class with its parentheses, which may be left out. -/
def pseudoArgument (name : Text) : Text → Except Stop (Text × Text)
  | '(' :: rest =>
    match argument 0 rest with
    | .error rest => .error ⟨.unbalancedPseudoClass name, rest⟩
    | .ok (inner, rest) => .ok ('(' :: inner, rest)
  | rest => .ok ([], rest)

/-- A pseudo-class, after its colon: a name and an optional argument in parentheses. -/
def pseudoClass (text : Text) : Except Stop (Token × Text) := do
  let name := text.takeWhile isNameCharacter
  let (argument, rest) ← pseudoArgument name (text.dropWhile isNameCharacter)
  if name ∈ Vocabulary.pseudoClasses then .ok (.pseudoClass (':' :: name ++ argument), rest)
  else .error ⟨.unknownPseudoClass name, rest⟩

/-- The fraction at the start of a text: a point or a slash and digits. -/
def fraction : Text → Text × Text
  | mark :: digit :: rest =>
    if (mark = '.' ∨ mark = '/') ∧ digit.isDigit then
      (mark :: digit :: rest.takeWhile Char.isDigit, rest.dropWhile Char.isDigit)
    else ([], mark :: digit :: rest)
  | rest => ([], rest)

/-- A number from its first character on.  One without fraction and unit is an integer, any other
keeps its spelling. -/
def number (text : Text) : Except Stop (Token × Text) :=
  let body := Text.skip '-' text
  let sign := if text.head? = some '-' then ['-'] else []
  let whole := sign ++ body.takeWhile Char.isDigit
  let (fraction, rest) := fraction (body.dropWhile Char.isDigit)
  let unit := rest.takeWhile Char.isAlpha
  let rest := rest.dropWhile Char.isAlpha
  if fraction = [] ∧ unit = [] then
    match Numeral.integer whole with
    | .error e => .error ⟨.integerTooLong e, rest⟩
    | .ok value => .ok (.value (.integer value), rest)
  else .ok (.value (.text (whole ++ fraction ++ unit)), rest)

/-- The greatest number of digits of a colour. -/
def colorDigits : Nat := 8

/-- A colour, after its number sign. -/
def color (text : Text) : Token × Text :=
  let digits := (text.takeWhile Numeral.isHexDigit).take colorDigits
  (.value (.text ('#' :: digits)), text.drop digits.length)

/-- The reference after a unit that overrides its own. -/
def unitReference (unit text : Text) : Except Stop (Token × Text) :=
  match text.dropWhile isGap with
  | '{' :: rest => do
    let (name, rest) ← bracedName rest
    .ok (.variableRef name (some unit), rest)
  | rest => .error ⟨.missingReference unit, rest⟩

/-- The value after an equals sign and gaps.  A unit stands before the reference that it
overrides. -/
def assigned (text : Text) : Except Stop (Token × Text) :=
  match text with
  | [] => .error ⟨.missingValue, []⟩
  | c :: rest =>
    if c = '\n' ∨ (c = '/' ∧ rest.head? = some '/') then .error ⟨.missingValue, c :: rest⟩
    else if c = '{' then variableRef rest
    else if c = '#' then .ok (color rest)
    else if beginsNumber (c :: rest) then number (c :: rest)
    else if beginsWord c then
      let word := c :: rest.takeWhile isWordPart
      let rest := rest.dropWhile isWordPart
      if word ∈ Vocabulary.units then unitReference word rest
      else .ok (.value (.text word), rest)
    else .error ⟨.unknownValueFormat c, c :: rest⟩

/-- The structural token of a character. -/
def symbol (c : Char) : Token :=
  if c = '}' then .symbol .rightBrace []
  else if c = '[' then .symbol .leftBracket []
  else if c = ']' then .symbol .rightBracket []
  else if c = ',' then .symbol .comma []
  else .symbol .unknown [c]

/-! ## The dispatch -/

/-- The beginning of a layer marker. -/
def layerKeyword : Text := ['L', 'A', 'Y', 'E', 'R', ' ']

/-- A construct of one token. -/
def one (read : Except Stop (Token × Text)) : Except Stop (List Token × Text) :=
  read.map fun (token, rest) => ([token], rest)

/-- The tokens of a construct that is neither a gap, a comment, a line end nor a layer marker, and
the text after it.  `prior` holds the tokens read so far, the last one first. -/
def construct (prior : List Token) (c : Char) (rest : Text) : Except Stop (List Token × Text) :=
  if c = '@' then one (media rest)
  else if c = '$' then one (identifier rest)
  else if c = ':' then one (pseudoClass rest)
  else if beginsNumber (c :: rest) then one (number (c :: rest))
  else if beginsWord c then
    .ok ([Token.classify prior (c :: rest.takeWhile isWordPart)], rest.dropWhile isWordPart)
  else if c = '%' then .ok ([.valueType "%"], rest)
  else if c = '{' then one (variableRef rest)
  else if c = '#' then one (.ok (color rest))
  else if c = '=' then
    (assigned (rest.dropWhile isGap)).map fun (value, rest) => ([.equals, value], rest)
  else .ok ([symbol c], rest)

/-- The tokens that the next construct gives, and the text after it.  `prior` holds the tokens read
so far, the last one first. -/
def step (prior : List Token) (c : Char) (rest : Text) : Except Stop (List Token × Text) :=
  if isGap c then .ok ([], rest)
  else if c = '/' ∧ rest.head? = some '/' then one (.ok (comment rest.tail))
  else if c = '\n' then .ok ([.newline], rest)
  else
    match Text.after? layerKeyword (c :: rest) with
    | some marker => one (layerMarker marker)
    | none => construct prior c rest

/-! ## No reader returns more than it was given -/

theorem comment_length_le (text : Text) : (comment text).2.length ≤ text.length :=
  Nat.le_trans (Text.length_dropWhile_le _ _) (Text.length_skip_le _ _)

theorem finishLine_length_le (text : Text) : (finishLine text).length ≤ text.length :=
  Nat.le_trans (Text.length_skip_le _ _) (Text.length_dropWhile_le _ _)

theorem layerMarker_length_le {text rest : Text} {token : Token}
    (h : layerMarker text = .ok (token, rest)) : rest.length ≤ text.length := by
  simp only [layerMarker] at h
  split at h
  · simp at h
  · split at h
    · simp at h
    · simp only [Except.ok.injEq, Prod.mk.injEq] at h
      rw [← h.2]
      refine Nat.le_trans (finishLine_length_le _) ?_
      exact Nat.le_trans (Text.length_dropWhile_le _ _) <|
        Nat.le_trans (Text.length_dropWhile_le _ _) <|
        Nat.le_trans (Text.length_dropWhile_le _ _) (Text.length_dropWhile_le _ _)

theorem bracedName_length_le {text rest name : Text}
    (h : bracedName text = .ok (name, rest)) : rest.length ≤ text.length := by
  simp only [bracedName] at h
  split at h
  · rename_i tail left
    simp only [Except.ok.injEq, Prod.mk.injEq] at h
    have := Text.length_dropWhile_le (fun c => c != '}' && c != '\n') text
    rw [left] at this
    rw [← h.2]
    exact Nat.le_trans (Nat.le_succ _) this
  · simp at h

theorem variableRef_length_le {text rest : Text} {token : Token}
    (h : variableRef text = .ok (token, rest)) : rest.length ≤ text.length := by
  simp only [variableRef, bind, Except.bind] at h
  split at h
  · simp at h
  · rename_i read braced
    obtain ⟨name, tail⟩ := read
    refine Nat.le_trans ?_ (bracedName_length_le braced)
    simp only at h
    split at h
    · simp only [Except.ok.injEq, Prod.mk.injEq] at h
      rw [← h.2]
      exact Nat.le_succ _
    · split at h
      · simp only [Except.ok.injEq, Prod.mk.injEq] at h
        rw [← h.2]
        exact Text.length_dropWhile_le _ _
      · split at h
        · simp only [Except.ok.injEq, Prod.mk.injEq] at h
          rw [← h.2]
          exact Text.length_dropWhile_le _ _
        · simp at h

theorem media_length_le {text rest : Text} {token : Token}
    (h : media text = .ok (token, rest)) : rest.length ≤ text.length := by
  simp only [media, bind, Except.bind] at h
  split at h
  · split at h
    · simp at h
    · rename_i read braced
      simp only [Except.ok.injEq, Prod.mk.injEq] at h
      rw [← h.2]
      exact Nat.le_trans (bracedName_length_le braced) (Nat.le_succ _)
  · split at h
    · simp at h
    · simp only [Except.ok.injEq, Prod.mk.injEq] at h
      rw [← h.2]
      exact Text.length_dropWhile_le _ _

theorem identifier_length_le {text rest : Text} {token : Token}
    (h : identifier text = .ok (token, rest)) : rest.length ≤ text.length := by
  simp only [identifier] at h
  split at h
  · simp only [Except.ok.injEq, Prod.mk.injEq] at h
    rw [← h.2]
    exact Text.length_dropWhile_le _ _
  · simp at h

theorem argument_length_le {opened : Nat} {text inner rest : Text}
    (h : argument opened text = .ok (inner, rest)) : rest.length ≤ text.length := by
  induction text generalizing opened inner rest with
  | nil => simp [argument] at h
  | cons c text ih =>
    simp only [argument] at h
    split at h
    · simp at h
    split at h
    · simp only [Except.ok.injEq, Prod.mk.injEq] at h
      exact h.2 ▸ Nat.le_succ _
    split at h
    · simp at h
    · rename_i found
      simp only [Except.ok.injEq, Prod.mk.injEq] at h
      exact h.2 ▸ Nat.le_trans (ih found) (Nat.le_succ _)

theorem pseudoArgument_length_le {name text argument rest : Text}
    (h : pseudoArgument name text = .ok (argument, rest)) : rest.length ≤ text.length := by
  unfold pseudoArgument at h
  split at h
  · split at h
    · simp at h
    · rename_i inside
      simp only [Except.ok.injEq, Prod.mk.injEq] at h
      rw [← h.2]
      exact Nat.le_trans (argument_length_le inside) (Nat.le_succ _)
  · simp only [Except.ok.injEq, Prod.mk.injEq] at h
    exact Nat.le_of_eq (congrArg List.length h.2.symm)

theorem pseudoClass_length_le {text rest : Text} {token : Token}
    (h : pseudoClass text = .ok (token, rest)) : rest.length ≤ text.length := by
  simp only [pseudoClass, bind, Except.bind] at h
  split at h
  · simp at h
  · rename_i read taken
    split at h
    · simp only [Except.ok.injEq, Prod.mk.injEq] at h
      rw [← h.2]
      exact Nat.le_trans (pseudoArgument_length_le taken) (Text.length_dropWhile_le _ _)
    · simp at h

theorem fraction_length_le (text : Text) : (fraction text).2.length ≤ text.length := by
  unfold fraction
  split
  · split
    · have := Text.length_dropWhile_le Char.isDigit
      grind
    · exact Nat.le_refl _
  · exact Nat.le_refl _

theorem number_length_le {c : Char} {text rest : Text} {token : Token}
    (begins : beginsNumber (c :: text)) (h : number (c :: text) = .ok (token, rest)) :
    rest.length ≤ text.length := by
  have inner : (fraction ((Text.skip '-' (c :: text)).dropWhile Char.isDigit)).2.length
      ≤ text.length := by
    by_cases sign : c = '-'
    · simp only [Text.skip, sign, if_true]
      exact Nat.le_trans (fraction_length_le _) (Text.length_dropWhile_le _ _)
    · simp only [beginsNumber, Text.skip, sign, if_false] at begins ⊢
      by_cases digit : c.isDigit
      · simp only [List.dropWhile_cons, digit, if_true]
        exact Nat.le_trans (fraction_length_le _) (Text.length_dropWhile_le _ _)
      · by_cases point : c = '.'
        · subst point
          cases text with
          | nil => simp at begins
          | cons d tail =>
            have digits : d.isDigit := by simpa using begins
            simp only [List.dropWhile_cons, digit, Bool.false_eq_true, if_false, fraction, digits,
              true_or, and_self, if_true]
            exact Nat.le_trans (Text.length_dropWhile_le _ _) (Nat.le_succ _)
        · simp [point, digit] at begins
  refine Nat.le_trans ?_ inner
  simp only [number] at h
  split at h
  · split at h
    · simp at h
    · simp only [Except.ok.injEq, Prod.mk.injEq] at h
      rw [← h.2]
      exact Text.length_dropWhile_le _ _
  · simp only [Except.ok.injEq, Prod.mk.injEq] at h
    rw [← h.2]
    exact Text.length_dropWhile_le _ _

theorem color_length_le (text : Text) : (color text).2.length ≤ text.length := by
  simp [color]

theorem unitReference_length_le {unit text rest : Text} {token : Token}
    (h : unitReference unit text = .ok (token, rest)) : rest.length ≤ text.length := by
  refine Nat.le_trans ?_ (Text.length_dropWhile_le isGap text)
  unfold unitReference at h
  split at h
  · rename_i tail left
    simp only [bind, Except.bind] at h
    split at h
    · simp at h
    · rename_i read braced
      simp only [Except.ok.injEq, Prod.mk.injEq] at h
      rw [left, ← h.2]
      exact Nat.le_trans (bracedName_length_le braced) (Nat.le_succ _)
  · simp at h

theorem assigned_length_le {text rest : Text} {token : Token}
    (h : assigned text = .ok (token, rest)) : rest.length ≤ text.length := by
  cases text with
  | nil => simp [assigned] at h
  | cons c tail =>
    refine Nat.le_trans ?_ (Nat.le_succ tail.length)
    simp only [assigned] at h
    split at h
    · simp at h
    split at h
    · exact variableRef_length_le h
    split at h
    · simp only [Except.ok.injEq] at h
      have := color_length_le tail
      rwa [h] at this
    split at h
    · rename_i begins
      exact number_length_le begins h
    split at h
    · refine Nat.le_trans ?_ (Text.length_dropWhile_le isWordPart tail)
      split at h
      · exact unitReference_length_le h
      · simp only [Except.ok.injEq, Prod.mk.injEq] at h
        exact Nat.le_of_eq (congrArg List.length h.2.symm)
    · simp at h

theorem one_length_le {read : Except Stop (Token × Text)} {bound : Nat}
    {emitted : List Token} {rest : Text}
    (short : ∀ token rest, read = .ok (token, rest) → rest.length ≤ bound)
    (h : one read = .ok (emitted, rest)) : rest.length ≤ bound := by
  cases read with
  | error => simp [one, Except.map] at h
  | ok pair =>
    simp only [one, Except.map, Except.ok.injEq, Prod.mk.injEq] at h
    exact h.2 ▸ short pair.1 pair.2 rfl

theorem plain_length_le {tokens emitted : List Token} {left rest : Text} {bound : Nat}
    (short : left.length ≤ bound)
    (h : (.ok (tokens, left) : Except Stop (List Token × Text)) = .ok (emitted, rest)) :
    rest.length ≤ bound := by
  simp only [Except.ok.injEq, Prod.mk.injEq] at h
  exact h.2 ▸ short

theorem construct_length_le {prior emitted : List Token} {c : Char} {text rest : Text}
    (h : construct prior c text = .ok (emitted, rest)) : rest.length ≤ text.length := by
  unfold construct at h
  split at h
  · exact one_length_le (fun _ _ => media_length_le) h
  split at h
  · exact one_length_le (fun _ _ => identifier_length_le) h
  split at h
  · exact one_length_le (fun _ _ => pseudoClass_length_le) h
  split at h
  · rename_i begins
    exact one_length_le (fun _ _ => number_length_le begins) h
  split at h
  · exact plain_length_le (Text.length_dropWhile_le _ _) h
  split at h
  · exact plain_length_le (Nat.le_refl _) h
  split at h
  · exact one_length_le (fun _ _ => variableRef_length_le) h
  split at h
  · exact plain_length_le (color_length_le _) h
  split at h
  · refine Nat.le_trans ?_ (Text.length_dropWhile_le isGap text)
    cases value : assigned (text.dropWhile isGap) with
    | error => simp [value, Except.map] at h
    | ok pair =>
      simp only [value, Except.map, Except.ok.injEq, Prod.mk.injEq] at h
      exact h.2 ▸ assigned_length_le value
  · exact plain_length_le (Nat.le_refl _) h

/-- One construct leaves less text than it found. -/
theorem step_length_le {prior emitted : List Token} {c : Char} {text rest : Text}
    (h : step prior c text = .ok (emitted, rest)) : rest.length ≤ text.length := by
  unfold step at h
  split at h
  · exact plain_length_le (Nat.le_refl _) h
  split at h
  · refine plain_length_le (Nat.le_trans (comment_length_le _) ?_) h
    simp
  split at h
  · exact plain_length_le (Nat.le_refl _) h
  cases found : Text.after? layerKeyword (c :: text) with
  | none =>
    rw [found] at h
    exact construct_length_le h
  | some marker =>
    rw [found] at h
    have length := congrArg List.length (Text.after?_eq_some found)
    refine Nat.le_trans (one_length_le (fun _ _ => layerMarker_length_le) h) ?_
    simp only [layerKeyword, List.length_cons, List.length_append, List.length_nil] at length
    omega

/-! ## The whole source -/

/-- Reads the rest of a source; `prior` holds the tokens read so far, the last one first. -/
def tokensFrom (prior : List Token) : Text → Except Stop (List Token)
  | [] => .ok prior.reverse
  | c :: rest =>
    match _taken : step prior c rest with
    | .error stop => .error stop
    | .ok (emitted, rest) => tokensFrom (emitted.reverse ++ prior) rest
termination_by text => text.length
decreasing_by exact Nat.lt_succ_of_le (step_length_le _taken)

/-- The tokens of a source, or the first construct that cannot be read. -/
def tokens (source : Text) : Except LexError (List Token) :=
  match tokensFrom [] source with
  | .error stop =>
    .error ⟨stop.fault, Position.after (source.take (source.length - stop.rest.length))⟩
  | .ok tokens => .ok tokens

end Lexer

end UtilityCss
