import Mathlib.Tactic.Lemma
import UtilityCss.Token.Lexer

/-!
# What a reader leaves unread

Reading goes from left to right: what a reader leaves, and what it still had before it when it
refused its text, is an end of the text that it was given.  So the position of an error, which is
computed from the length of the unread text, lies in the source (`tokensFrom_error_suffix`).
-/

namespace UtilityCss.Lexer

variable {α : Type} {text : Text}

/-- The text that a reader has not read, whether it succeeded or not. -/
def unread : Except Stop (α × Text) → Text
  | .ok (_, rest) => rest
  | .error stop => stop.rest

lemma skip_suffix (c : Char) (text : Text) : Text.skip c text <:+ text := by
  cases text with
  | nil => exact List.suffix_refl []
  | cons d rest =>
    rw [Text.skip]
    split
    · exact List.suffix_cons d rest
    · exact List.suffix_refl _

/-! ## Readers -/

lemma comment_suffix (text : Text) : (comment text).2 <:+ text :=
  (List.dropWhile_suffix _).trans (skip_suffix '*' text)

lemma layerMarker_suffix (text : Text) : unread (layerMarker text) <:+ text := by
  have marker : ((((text.dropWhile isGap).dropWhile (!isBlank ·)).dropWhile isGap).dropWhile
      (!isBlank ·)) <:+ text :=
    (List.dropWhile_suffix _).trans <| (List.dropWhile_suffix _).trans <|
      (List.dropWhile_suffix _).trans (List.dropWhile_suffix _)
  simp only [layerMarker]
  split
  · exact marker
  split
  · exact marker
  · exact (skip_suffix '\n' _).trans <| (List.dropWhile_suffix _).trans marker

lemma bracedName_suffix (text : Text) : unread (bracedName text) <:+ text := by
  have left := List.dropWhile_suffix (l := text) fun c => c != '}' && c != '\n'
  simp only [bracedName]
  split
  · rename_i rest shape
    rw [shape] at left
    exact (List.suffix_cons '}' rest).trans left
  · exact left

lemma variableRef_suffix (text : Text) : unread (variableRef text) <:+ text := by
  have braced := bracedName_suffix text
  unfold variableRef
  cases named : bracedName text with
  | error stop => rwa [named] at braced
  | ok pair =>
    obtain ⟨name, rest⟩ := pair
    rw [named] at braced
    refine List.IsSuffix.trans ?_ braced
    simp only [bind, Except.bind]
    split
    · exact List.suffix_cons _ _
    split
    · exact List.dropWhile_suffix _
    split
    · exact List.dropWhile_suffix _
    · exact List.dropWhile_suffix _

lemma media_suffix (text : Text) : unread (media text) <:+ text := by
  unfold media
  split
  · rename_i rest
    refine List.IsSuffix.trans ?_ (List.suffix_cons '{' rest)
    have braced := bracedName_suffix rest
    cases named : bracedName rest with
    | error stop => rwa [named] at braced
    | ok pair => rwa [named] at braced
  · dsimp only
    split
    · exact List.dropWhile_suffix _
    · exact List.dropWhile_suffix _

lemma identifier_suffix (text : Text) : unread (identifier text) <:+ text := by
  simp only [identifier]
  split
  · exact List.dropWhile_suffix _
  · exact List.dropWhile_suffix _

lemma argument_suffix {opened : Nat} {text : Text} {read : Except Text (Text × Text)}
    (h : argument opened text = read) :
    (match read with
      | .error rest => rest
      | .ok (_, rest) => rest) <:+ text := by
  induction text generalizing opened read with
  | nil =>
    subst h
    exact List.suffix_refl []
  | cons c text ih =>
    simp only [argument] at h
    split at h
    · subst h
      exact List.suffix_refl _
    split at h
    · subst h
      exact List.suffix_cons c text
    split at h
    · rename_i found
      subst h
      exact (ih found).trans (List.suffix_cons c text)
    · rename_i found
      subst h
      exact (ih found).trans (List.suffix_cons c text)

lemma pseudoArgument_suffix (name text : Text) : unread (pseudoArgument name text) <:+ text := by
  unfold pseudoArgument
  split
  · rename_i rest
    split
    · rename_i found
      exact (argument_suffix found).trans (List.suffix_cons '(' rest)
    · rename_i found
      exact (argument_suffix found).trans (List.suffix_cons '(' rest)
  · exact List.suffix_refl _

lemma pseudoClass_suffix (text : Text) : unread (pseudoClass text) <:+ text := by
  have found := pseudoArgument_suffix (text.takeWhile isNameCharacter)
    (text.dropWhile isNameCharacter)
  refine List.IsSuffix.trans ?_ (found.trans (List.dropWhile_suffix _))
  simp only [pseudoClass]
  cases pseudoArgument (text.takeWhile isNameCharacter) (text.dropWhile isNameCharacter) with
  | error stop => exact List.suffix_refl _
  | ok pair =>
    simp only [bind, Except.bind]
    split
    · exact List.suffix_refl _
    · exact List.suffix_refl _

lemma fraction_suffix (text : Text) : (fraction text).2 <:+ text := by
  unfold fraction
  split
  · rename_i mark digit rest
    split
    · exact (List.dropWhile_suffix _).trans <|
        (List.suffix_cons digit rest).trans (List.suffix_cons mark _)
    · exact List.suffix_refl _
  · exact List.suffix_refl _

lemma number_suffix (text : Text) : unread (number text) <:+ text := by
  have digits : (fraction ((Text.skip '-' text).dropWhile Char.isDigit)).2 <:+ text :=
    (fraction_suffix _).trans <| (List.dropWhile_suffix _).trans (skip_suffix '-' text)
  simp only [number]
  split
  · split
    · exact (List.dropWhile_suffix _).trans digits
    · exact (List.dropWhile_suffix _).trans digits
  · exact (List.dropWhile_suffix _).trans digits

lemma unitReference_suffix (unit text : Text) : unread (unitReference unit text) <:+ text := by
  refine List.IsSuffix.trans ?_ (List.dropWhile_suffix isGap)
  unfold unitReference
  split
  · rename_i rest shape
    rw [shape]
    refine List.IsSuffix.trans ?_ (List.suffix_cons '{' rest)
    have braced := bracedName_suffix rest
    cases named : bracedName rest with
    | error stop => rwa [named] at braced
    | ok pair => rwa [named] at braced
  · exact List.suffix_refl _

lemma assigned_suffix (text : Text) : unread (assigned text) <:+ text := by
  unfold assigned
  split
  · exact List.suffix_refl []
  rename_i c rest
  split
  · exact List.suffix_refl _
  split
  · exact (variableRef_suffix rest).trans (List.suffix_cons c rest)
  split
  · exact (List.drop_suffix _ rest).trans (List.suffix_cons c rest)
  split
  · exact number_suffix _
  split
  · have behind : rest.dropWhile isWordPart <:+ c :: rest :=
      (List.dropWhile_suffix isWordPart).trans (List.suffix_cons c rest)
    refine List.IsSuffix.trans ?_ behind
    dsimp only
    split
    · exact unitReference_suffix _ _
    · exact List.suffix_refl _
  · exact List.suffix_refl _

/-! ## Steps -/

lemma unread_one (read : Except Stop (Token × Text)) : unread (one read) = unread read := by
  cases read with
  | error stop => rfl
  | ok pair => rfl

lemma construct_suffix (prior : List Token) (c : Char) (text : Text) :
    unread (construct prior c text) <:+ c :: text := by
  have behind {rest : Text} (left : rest <:+ text) : rest <:+ c :: text :=
    left.trans (List.suffix_cons c text)
  unfold construct
  split
  · exact unread_one _ ▸ behind (media_suffix text)
  split
  · exact unread_one _ ▸ behind (identifier_suffix text)
  split
  · exact unread_one _ ▸ behind (pseudoClass_suffix text)
  split
  · exact unread_one _ ▸ number_suffix _
  split
  · exact behind (List.dropWhile_suffix _)
  split
  · exact List.suffix_cons c text
  split
  · exact unread_one _ ▸ behind (variableRef_suffix text)
  split
  · exact behind (List.drop_suffix _ text)
  split
  · have value := assigned_suffix (text.dropWhile isGap)
    refine behind (List.IsSuffix.trans ?_ (value.trans (List.dropWhile_suffix _)))
    cases assigned (text.dropWhile isGap) with
    | error stop => exact List.suffix_refl _
    | ok pair => exact List.suffix_refl _
  · exact List.suffix_cons c text

lemma step_suffix (prior : List Token) (c : Char) (text : Text) :
    unread (step prior c text) <:+ c :: text := by
  unfold step
  split
  · exact List.suffix_cons c text
  split
  · exact (comment_suffix text.tail).trans ((List.tail_suffix text).trans (List.suffix_cons c text))
  split
  · exact List.suffix_cons c text
  cases found : Text.after? layerKeyword (c :: text) with
  | none => exact construct_suffix prior c text
  | some marker =>
    rw [Text.after?_eq_some found]
    exact unread_one _ ▸ (layerMarker_suffix marker).trans (List.suffix_append _ _)

/-- `step_suffix` along the reading.  The position of a fault is counted from the text before
`stop.rest`, which therefore has to be an end of the source. -/
theorem tokensFrom_error_suffix {prior : List Token} {stop : Stop}
    (h : tokensFrom prior text = .error stop) : stop.rest <:+ text := by
  fun_induction tokensFrom prior text with
  | case1 => simp at h
  | case2 prior c text found taken =>
    obtain rfl := Except.error.inj h
    have left := step_suffix prior c text
    rwa [taken] at left
  | case3 prior c text emitted rest taken ih =>
    have left := step_suffix prior c text
    rw [taken] at left
    exact (ih h).trans left

end UtilityCss.Lexer
