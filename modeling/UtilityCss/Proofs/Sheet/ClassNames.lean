import UtilityCss.Proofs.Media.Characters
import UtilityCss.Proofs.Statement.Alphabet
import UtilityCss.Sheet.ClassName

/-!
# The characters of class names

A class name is put together from a form of the property, a form of the value, and tags for
pseudo-class and media width.  The form of the value is the part that the source can choose, and
characters that a name cannot have are taken out of it one by one (`ClassName.safe`).  What is left
are characters of words (`ClassName.isWordPart_of_mem_valuePart`), and one of those is no character
of a name: the at sign, which is kept wherever the value or its variables have it
(`ClassName.at_mem_valuePart_iff`).  All other parts are made of the characters of names, as long as
the media condition is one that may be emitted (`ClassName.isNameCharacter_or_at`).
-/

namespace UtilityCss.ClassName

open Lexer (isNameCharacter isWordPart)
open Text (Simple)

variable {text property : Text} {c : Char} {format : ClassNameFormat} {declaration : Declaration}

/-! ## The property -/

/-- A character of a name whose small and capital forms are characters of names. -/
def isSteady (c : Char) : Bool :=
  c.toNat < 0x80 && isNameCharacter c && isNameCharacter c.toLower && isNameCharacter c.toUpper

lemma isNameCharacter_of_isSteady (steady : isSteady c = true) : isNameCharacter c = true := by
  simp only [isSteady, Bool.and_eq_true] at steady
  exact steady.1.1.2

lemma isNameCharacter_lowerAfter (steady : ∀ c ∈ text, isSteady c = true) (before : Text) :
    ∀ c ∈ Text.lowerAfter before text, isNameCharacter c = true := by
  induction text generalizing before with
  | nil => exact List.forall_mem_nil _
  | cons c text ih =>
    obtain ⟨here, later⟩ := List.forall_mem_cons.1 steady
    have other : c ≠ 'Σ' := by
      rintro rfl
      exact absurd here (by decide)
    simp only [isSteady, Bool.and_eq_true, decide_eq_true_eq] at here
    rw [Text.lowerAfter, if_neg other, lowerCharacter, if_pos here.1.1.1]
    exact List.forall_mem_cons.2 ⟨here.1.2, ih later (c :: before)⟩

lemma isNameCharacter_capitalize (steady : ∀ c ∈ text, isSteady c = true) :
    ∀ c ∈ Text.capitalize text, isNameCharacter c = true := by
  cases text with
  | nil => exact List.forall_mem_nil _
  | cons c text =>
    obtain ⟨here, later⟩ := List.forall_mem_cons.1 steady
    simp only [isSteady, Bool.and_eq_true, decide_eq_true_eq] at here
    rw [Text.capitalize, titleCharacter, if_pos here.1.1.1]
    exact List.forall_mem_cons.2 ⟨here.2, isNameCharacter_lowerAfter later [c]⟩

lemma isSteady_of_mem_properties (known : property ∈ Vocabulary.properties) :
    ∀ c ∈ property, isSteady c = true := by
  have all : Vocabulary.properties.all (·.all isSteady) = true := by decide
  exact List.all_eq_true.1 (List.all_eq_true.1 all property known)

lemma isNameCharacter_stem (format : ClassNameFormat) (known : property ∈ Vocabulary.properties) :
    ∀ c ∈ stem format property, isNameCharacter c = true := by
  have steady := isSteady_of_mem_properties known
  have part {part : Text} (mem : part ∈ property.splitOn '-') : ∀ c ∈ part, isSteady c = true :=
    fun c inside => steady c (Text.mem_of_mem_splitOnP mem inside).1
  cases format with
  | minimalistic | standard =>
    refine isNameCharacter_lowerAfter (fun c mem => ?_) []
    obtain ⟨word, listed, inside⟩ := List.mem_flatMap.1 mem
    exact part listed c (List.mem_of_mem_take inside)
  | fullName =>
    intro c mem
    obtain ⟨word, listed, inside⟩ := List.mem_flatMap.1 mem
    exact isNameCharacter_capitalize (part listed) c inside
  | bootstrap =>
    change ∀ c ∈ familyLetter property, isNameCharacter c = true
    unfold familyLetter
    split
    · rename_i family letter found
      have letters : families.all (·.2.all isNameCharacter) = true := by decide
      exact List.all_eq_true.1 (List.all_eq_true.1 letters _ (List.mem_of_find?_eq_some found))
    · exact fun c mem => isNameCharacter_of_isSteady (steady c (List.mem_of_mem_take mem))

/-! ## The value -/

lemma mem_safe_iff :
    c ∈ safe text ↔ c ∈ text ∧ c ∉ specialCharacters ∧ c ≠ '%' ∨ c = 'p' ∧ '%' ∈ text := by
  simp only [safe, List.mem_map, List.mem_filter, decide_eq_true_eq]
  constructor
  · rintro ⟨d, ⟨inside, kept⟩, rfl⟩
    split
    · rename_i percent
      exact .inr ⟨rfl, percent ▸ inside⟩
    · rename_i other
      exact .inl ⟨inside, kept, other⟩
  · rintro (⟨inside, kept, other⟩ | ⟨rfl, inside⟩)
    · exact ⟨c, ⟨inside, kept⟩, if_neg other⟩
    · exact ⟨'%', ⟨inside, by decide⟩, rfl⟩

/-- `safe` takes the special characters out.  Of the `Simple` characters, these and the blank are
all that no word has. -/
lemma isWordPart_of_mem_safe (simple : Simple text) (solid : ' ' ∉ text) (mem : c ∈ safe text) :
    isWordPart c = true := by
  rcases mem_safe_iff.1 mem with ⟨inside, kept, percent⟩ | ⟨rfl, -⟩
  · refine (Bool.or_eq_true_iff.1 (simple c inside)).resolve_right fun other => ?_
    have blank : c ≠ ' ' := fun same => solid (same ▸ inside)
    simp only [decide_eq_true_eq, List.mem_cons, List.not_mem_nil, or_false, percent,
      blank] at other
    simp only [specialCharacters, List.mem_cons, not_or] at kept
    tauto
  · rfl

lemma mem_shorten_iff (kept : c ∉ vowels) : c ∈ shorten text ↔ c ∈ text := by
  cases text with
  | nil => rfl
  | cons d rest => simp [shorten, kept]

lemma shorten_subset (text : Text) : shorten text ⊆ text := by
  cases text with
  | nil => exact List.nil_subset _
  | cons c rest => exact List.cons_subset_cons c List.filter_sublist.subset

/-- The texts that the value in a class name is made of: the variables that it came from, or what
was declared. -/
def label (declaration : Declaration) : List Text :=
  match present declaration.optionalName with
  | some name => [name]
  | none => declaration.values

/-- `valuePart` joins the words of the values by hyphens, which take the place of the blanks and of
nothing else. -/
lemma mem_hyphenated_iff (values : List Text) (other : c ≠ '-') :
    c ∈ Text.join "-" (values.map fun value => Text.join "-" (Text.words value)) ↔
      ∃ value ∈ values, c ∈ value ∧ isBlank c = false := by
  have foreign : c ∉ ("-" : Text) := fun mem => other (List.mem_singleton.1 mem)
  simp only [Text.mem_join_iff foreign, List.mem_map, exists_exists_and_eq_and,
    Text.exists_mem_words_iff]

theorem isWordPart_of_mem_valuePart (plain : declaration.Plain)
    (mem : c ∈ valuePart format declaration) : isWordPart c = true := by
  unfold valuePart at mem
  split at mem
  · rename_i name given
    have words := plain.optionalName name (Option.eq_some_of_filter_eq_some given)
    have solid : ' ' ∉ name := fun blank => absurd (words ' ' blank) (by decide)
    refine isWordPart_of_mem_safe (.of_words words) solid ?_
    split at mem
    · exact shorten_subset _ mem
    · exact mem
  · dsimp only at mem
    split at mem
    · have none : ("none" : Text).all isWordPart = true := rfl
      exact List.all_eq_true.1 none c mem
    · refine isWordPart_of_mem_safe (fun d inside => ?_) (fun blank => ?_) mem
      · by_cases hyphen : d = '-'
        · exact hyphen ▸ rfl
        · obtain ⟨value, listed, here, -⟩ := (mem_hyphenated_iff _ hyphen).1 inside
          exact plain.values value listed d here
      · obtain ⟨value, -, -, solid⟩ := (mem_hyphenated_iff _ (by decide)).1 blank
        exact absurd solid (by decide)

/-- `safe`, the shortening and the hyphens all keep the at sign, because it is neither a special
character nor a vowel nor a blank. -/
theorem at_mem_valuePart_iff :
    '@' ∈ valuePart format declaration ↔ ∃ part ∈ label declaration, '@' ∈ part := by
  have kept (text : Text) : '@' ∈ safe text ↔ '@' ∈ text := by
    simp [mem_safe_iff, specialCharacters]
  unfold valuePart label
  cases given : present declaration.optionalName with
  | some name =>
    have short : '@' ∈ shorten (safe name) ↔ '@' ∈ name :=
      (mem_shorten_iff (by decide)).trans (kept name)
    dsimp only
    split
    · simpa using short
    · simpa using kept name
  | none =>
    have solid : isBlank '@' = false := by decide
    have declared := (kept _).trans (mem_hyphenated_iff declaration.values (by decide))
    simp only [solid, and_true] at declared
    dsimp only
    split
    · rename_i empty
      rw [empty] at declared
      simpa using declared
    · exact declared

/-! ## The whole name -/

/-- The name of the class, which is its selector without the dot. -/
def name (format : ClassNameFormat) (declaration : Declaration) : Text :=
  Text.join "_"
    ([stem format declaration.property, valuePart format declaration] ++ tags declaration)

lemma name_ne_nil (format : ClassNameFormat) (declaration : Declaration) :
    name format declaration ≠ [] := by
  simp [name, Text.join, List.intercalate_cons_cons]

/-- Of the parts of a `name`, the value and the digits of `Media.tag` are the ones that are not made
of `isNameCharacter`s to begin with. -/
lemma mem_name (plain : declaration.Plain) (mem : c ∈ name format declaration) :
    c ∈ valuePart format declaration ∨ isNameCharacter c = true ∨
      ∃ condition ∈ present declaration.media, c ∈ Media.tag condition := by
  rcases Text.mem_of_mem_join mem with line | ⟨part, listed, inside⟩
  · obtain rfl := List.mem_singleton.1 line
    exact .inr (.inl rfl)
  simp only [tags, List.cons_append, List.nil_append, List.mem_cons, List.mem_append,
    Option.mem_toList, Option.map_eq_some_iff] at listed
  rcases listed with rfl | rfl | ⟨pseudo, given, rfl⟩ | ⟨condition, given, rfl⟩
  · exact .inr (.inl (isNameCharacter_stem format plain.property c inside))
  · exact .inl inside
  · exact .inr (.inl (plain.pseudoClass pseudo (Option.eq_some_of_filter_eq_some given) c inside))
  · rcases List.mem_cons.1 inside with rfl | digit
    · exact .inr (.inl rfl)
    · exact .inr (.inr ⟨condition, given, digit⟩)

/-- `isWordPart` has one character more than `isNameCharacter`, the at sign; where the digits of the
media width are those of ASCII, this is the only one that a class name can have besides. -/
theorem isNameCharacter_or_at (plain : declaration.Plain)
    (digits : ∀ condition ∈ present declaration.media, ∀ c ∈ Media.tag condition, c.isDigit = true)
    (mem : c ∈ name format declaration) : isNameCharacter c = true ∨ c = '@' := by
  rcases mem_name plain mem with value | named | ⟨condition, given, tag⟩
  · simpa [isWordPart] using isWordPart_of_mem_valuePart plain value
  · exact .inl named
  · exact .inl (by simp [isNameCharacter, Char.isAlphanum, digits condition given c tag])

lemma at_mem_name_iff (format : ClassNameFormat) (plain : declaration.Plain) :
    '@' ∈ name format declaration ↔ ∃ part ∈ label declaration, '@' ∈ part := by
  rw [← at_mem_valuePart_iff]
  constructor
  · intro mem
    rcases mem_name plain mem with value | named | ⟨condition, -, tag⟩
    · exact value
    · exact absurd named (by decide)
    · exact absurd (Media.mem_of_mem_tag tag).1 (by decide)
  · exact Text.mem_join_of_mem (List.mem_cons_of_mem _ List.mem_cons_self)

/-- By `mem_name` the characters of a name are word parts and digits, none of which opens or closes
anything. -/
lemma neutral_name (plain : declaration.Plain) : (name format declaration).Neutral := by
  intro c mem
  rcases mem_name plain mem with value | named | ⟨condition, -, tag⟩
  · exact Text.isNeutral_of_class (isWordPart_of_mem_valuePart plain value) rfl
  · exact Text.isNeutral_of_class named rfl
  · exact Text.isNeutral_of_class (Media.mem_of_mem_tag tag).1 rfl

end UtilityCss.ClassName
