/-!
# Text

Source files, tokens and style sheets are all handled as `Text`, a list of characters, so that
lengths and columns count code points and every reader is a function on the characters that are
still unread.  String literals stand for the text they spell (`Coe String Text`).

The operations here do not look at character classes: decimal numerals (`Text.ofNat`,
`Text.ofInt`), joining with a separator (`Text.join`), one optional leading character
(`Text.skip`), removing a known beginning (`Text.after?`) and replacing every occurrence of a
word (`Text.replaceAll`).
-/

namespace UtilityCss

/-- A text is the list of its characters. -/
abbrev Text := List Char

/-- A string literal stands for the text it spells. -/
instance : Coe String Text := ⟨String.toList⟩

namespace Text

/-- Whether a text is in a list is decided by comparing it with each text of the list. -/
instance decidableMem (text : Text) : (texts : List Text) → Decidable (text ∈ texts)
  | [] => .isFalse List.not_mem_nil
  | other :: texts =>
    if same : text = other then .isTrue (List.mem_cons.2 (.inl same))
    else
      match decidableMem text texts with
      | .isTrue found => .isTrue (List.mem_cons.2 (.inr found))
      | .isFalse missing => .isFalse fun found => (List.mem_cons.1 found).elim same missing

/-! ## Numerals -/

/-- The decimal numeral of a natural number, without leading zeros. -/
def ofNat (n : Nat) : Text := Nat.toDigits 10 n

/-- The decimal numeral of an integer: a minus sign stands before a negative one. -/
def ofInt : Int → Text
  | .ofNat n => ofNat n
  | .negSucc n => '-' :: ofNat (n + 1)

/-! ## Joining -/

/-- The parts in order with the separator between neighbours. -/
def join (separator : Text) (parts : List Text) : Text := separator.intercalate parts

/-- The text in braces. -/
def braced (text : Text) : Text := '{' :: (text ++ ['}'])

/-- The text repeated a number of times. -/
def times (count : Nat) (text : Text) : Text := (List.replicate count text).flatten

/-- The text followed by blanks up to the given width; a longer text is kept whole. -/
def padRight (width : Nat) (text : Text) : Text :=
  text ++ List.replicate (width - text.length) ' '

/-! ## Known beginnings -/

theorem length_dropWhile_le (p : Char → Bool) (text : Text) :
    (text.dropWhile p).length ≤ text.length :=
  (List.dropWhile_suffix p).length_le

/-- The text without its first character, if that is the given one; else the text itself. -/
def skip (c : Char) : Text → Text
  | [] => []
  | d :: rest => if d = c then rest else d :: rest

theorem length_skip_le (c : Char) (text : Text) : (skip c text).length ≤ text.length := by
  cases text with
  | nil => simp [skip]
  | cons d rest => by_cases h : d = c <;> simp [skip, h]

/-- What follows a given beginning, or nothing if the text starts otherwise. -/
def after? : (beginning text : Text) → Option Text
  | [], text => some text
  | _ :: _, [] => none
  | c :: cs, d :: text => if c = d then after? cs text else none

theorem after?_eq_some {beginning text rest : Text} (h : after? beginning text = some rest) :
    text = beginning ++ rest := by
  fun_induction after? beginning text with
  | case1 text => simp_all
  | case2 => simp at h
  | case3 c cs text ih => simp [ih h]
  | case4 => simp at h

@[simp]
theorem after?_append (beginning rest : Text) :
    after? beginning (beginning ++ rest) = some rest := by
  induction beginning with
  | nil => rfl
  | cons c cs ih => simp [after?, ih]

/-- Does the text begin with the given one? -/
def startsWith (beginning text : Text) : Bool := (after? beginning text).isSome

/-! ## Replacing -/

/-- Every occurrence of the word `c :: word`, found from the left and without overlap, is
replaced. -/
def replaceWord (c : Char) (word replacement : Text) : Text → Text
  | [] => []
  | d :: rest =>
    match _found : after? (c :: word) (d :: rest) with
    | some tail => replacement ++ replaceWord c word replacement tail
    | none => d :: replaceWord c word replacement rest
termination_by text => text.length
decreasing_by
  · have := congrArg List.length (after?_eq_some _found)
    simp at this
    simp
    omega
  · simp

/-- Every occurrence of a word, found from the left and without overlap, is replaced.  The empty
word has none. -/
def replaceAll (word replacement text : Text) : Text :=
  match word with
  | [] => text
  | c :: word => replaceWord c word replacement text

end Text

end UtilityCss
