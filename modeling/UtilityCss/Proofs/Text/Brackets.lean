import Mathlib.Data.List.Infix
import UtilityCss.Proofs.Text.Words

/-!
# Brackets

A sequence of brackets is balanced when no beginning of it closes more than it opens and the whole
closes as much as it opens (`Bracket.Balanced`).  Read from left to right this means that no bracket
is closed where none is open (`Bracket.unopened`) and that none is open in the end
(`Bracket.balanced_iff`).

The brackets of a style sheet are its braces outside of comments.  A reader of CSS finds them by
keeping track of the `Place` where it stands (`Text.brackets`).  A text that can stand anywhere
between comments and adds a fixed row of brackets there (`Text.Scans`) can be put together with
others, and so the brackets of a style sheet are those of its parts.
-/

namespace UtilityCss

inductive Bracket
  | opening
  | closing
deriving DecidableEq, Repr

namespace Bracket

variable {brackets first second : List Bracket}

/-- No beginning closes more than it opens, and the whole closes as much as it opens. -/
structure Balanced (brackets : List Bracket) : Prop where
  beginning : ∀ before, before <+: brackets → before.count .closing ≤ before.count .opening
  whole : brackets.count .closing = brackets.count .opening

/-- The number of open brackets after one more.  To close one where none is open changes
nothing. -/
def openAfter (depth : Nat) : Bracket → Nat
  | .opening => depth + 1
  | .closing => depth - 1

/-- The number of times that a bracket is closed where none is open. -/
def unopened : (depth : Nat) → List Bracket → Nat
  | _, [] => 0
  | depth, .opening :: rest => unopened (depth + 1) rest
  | 0, .closing :: rest => unopened 0 rest + 1
  | depth + 1, .closing :: rest => unopened depth rest

lemma unopened_append (depth : Nat) (first second : List Bracket) :
    unopened depth (first ++ second) =
      unopened depth first + unopened (first.foldl openAfter depth) second := by
  fun_induction unopened depth first with
  | case1 depth => simp
  | case2 depth rest ih => simpa [unopened, openAfter] using ih
  | case3 rest ih =>
    simp only [List.cons_append, unopened, ih, List.foldl_cons, openAfter, Nat.zero_sub]
    omega
  | case4 depth rest ih => simpa [unopened, openAfter] using ih

/-- The balance that all other counts are read from: `unopened` makes up for the brackets that
`openAfter` closes where none is open. -/
lemma count_closing_add (depth : Nat) (brackets : List Bracket) :
    brackets.count .closing + brackets.foldl openAfter depth =
      brackets.count .opening + depth + unopened depth brackets := by
  fun_induction unopened depth brackets with
  | case1 depth => simp
  | case2 depth rest ih =>
    simp only [List.count_cons, List.foldl_cons, openAfter]
    simp
    omega
  | case3 rest ih =>
    simp only [List.count_cons, List.foldl_cons, openAfter]
    simp
    omega
  | case4 depth rest ih =>
    simp only [List.count_cons, List.foldl_cons, openAfter]
    simp
    omega

/-- `count_closing_add` for the beginning, whose brackets without an opening one are among those of
the whole (`unopened_append`). -/
lemma count_closing_le {before : List Bracket} (depth : Nat) (h : before <+: brackets) :
    before.count .closing ≤ before.count .opening + depth + unopened depth brackets := by
  obtain ⟨rest, rfl⟩ := h
  have total := count_closing_add depth before
  rw [unopened_append]
  omega

/-- From right to left by induction on `unopened`: the beginning that ends with the first bracket
too many would close more than it may. -/
lemma unopened_eq_zero_iff (depth : Nat) (brackets : List Bracket) :
    unopened depth brackets = 0 ↔
      ∀ before, before <+: brackets → before.count .closing ≤ before.count .opening + depth := by
  constructor
  · intro none before h
    simpa [none] using count_closing_le depth h
  · intro bounded
    fun_induction unopened depth brackets with
    | case1 => rfl
    | case2 depth rest ih =>
      refine ih fun before h => ?_
      have := bounded (.opening :: before) (List.cons_prefix_cons.2 ⟨rfl, h⟩)
      simp at this
      omega
    | case3 rest ih =>
      have := bounded [.closing] (List.cons_prefix_cons.2 ⟨rfl, List.nil_prefix⟩)
      simp at this
    | case4 depth rest ih =>
      refine ih fun before h => ?_
      have := bounded (.closing :: before) (List.cons_prefix_cons.2 ⟨rfl, h⟩)
      simp at this
      omega

/-- `Balanced` speaks of all beginnings, the right side of one reading from left to right, which is
what can be computed and put together. -/
theorem balanced_iff :
    Balanced brackets ↔ unopened 0 brackets = 0 ∧ brackets.foldl openAfter 0 = 0 := by
  have total := count_closing_add 0 brackets
  rw [unopened_eq_zero_iff]
  constructor
  · rintro ⟨beginning, whole⟩
    have none := (unopened_eq_zero_iff 0 brackets).2 beginning
    exact ⟨beginning, by omega⟩
  · rintro ⟨beginning, closed⟩
    have none := (unopened_eq_zero_iff 0 brackets).2 beginning
    exact ⟨beginning, by omega⟩

namespace Balanced

lemma nil : Balanced [] := balanced_iff.2 ⟨rfl, rfl⟩

/-- `balanced_iff` is the case of depth zero.  At any depth the brackets before are left alone, so
that balanced parts can be nested and put in a row. -/
lemma inside (balanced : Balanced brackets) (depth : Nat) :
    unopened depth brackets = 0 ∧ brackets.foldl openAfter depth = depth := by
  have none : unopened depth brackets = 0 :=
    (unopened_eq_zero_iff depth brackets).2 fun before h =>
      Nat.le_add_right_of_le (balanced.beginning before h)
  have total := count_closing_add depth brackets
  exact ⟨none, by have := balanced.whole; omega⟩

lemma append (h : Balanced first) (h' : Balanced second) : Balanced (first ++ second) := by
  obtain ⟨opened, closed⟩ := h.inside 0
  obtain ⟨opened', closed'⟩ := h'.inside 0
  rw [balanced_iff, unopened_append, List.foldl_append, closed, opened, opened', closed']
  exact ⟨rfl, rfl⟩

lemma flatMap {α : Type} {f : α → List Bracket} {all : List α}
    (h : ∀ x ∈ all, Balanced (f x)) : Balanced (all.flatMap f) := by
  induction all with
  | nil => exact nil
  | cons x all ih =>
    rw [List.flatMap_cons]
    exact (h x List.mem_cons_self).append (ih fun y mem => h y (List.mem_cons_of_mem _ mem))

/-- At depth one `inside` leaves one bracket open, which the last one closes. -/
lemma enclosed (h : Balanced brackets) : Balanced (.opening :: (brackets ++ [.closing])) := by
  obtain ⟨opened, closed⟩ := h.inside 1
  rw [balanced_iff, unopened, unopened_append, List.foldl_cons, List.foldl_append, openAfter,
    opened, closed]
  exact ⟨rfl, rfl⟩

end Balanced

end Bracket

/-! ## The brackets of a text -/

/-- Where a reader of CSS stands. -/
inductive Place
  /-- Outside of comments. -/
  | code
  /-- Outside of comments, directly behind a slash. -/
  | slash
  /-- In a comment. -/
  | comment
  /-- In a comment, directly behind a star. -/
  | star
deriving DecidableEq, Repr

namespace Place

/-- Is the place outside of comments? -/
def outside : Place → Bool
  | .code | .slash => true
  | .comment | .star => false

/-- The place behind one more character: a comment begins with a slash and a star and ends with the
next star and slash. -/
def next : Place → Char → Place
  | .code, c => if c = '/' then .slash else .code
  | .slash, c => if c = '*' then .comment else if c = '/' then .slash else .code
  | .comment, c => if c = '*' then .star else .comment
  | .star, c => if c = '/' then .code else if c = '*' then .star else .comment

/-- The place behind a text. -/
def after (place : Place) (text : Text) : Place := text.foldl next place

@[simp] lemma after_cons (place : Place) (c : Char) (text : Text) :
    place.after (c :: text) = (place.next c).after text := rfl

@[simp] lemma after_append (place : Place) (text other : Text) :
    place.after (text ++ other) = (place.after text).after other :=
  List.foldl_append

end Place

/-- The bracket that a brace is. -/
def Bracket.ofChar? (c : Char) : Option Bracket :=
  if c = '{' then some .opening else if c = '}' then some .closing else none

namespace Text

variable {text other : Text} {found more : List Bracket} {place : Place} {c : Char}

/-- The braces outside of comments, from a place on. -/
def bracketsFrom (place : Place) : Text → List Bracket
  | [] => []
  | c :: rest =>
    (if place.outside then (Bracket.ofChar? c).toList else []) ++ bracketsFrom (place.next c) rest

/-- The braces of a text outside of its comments. -/
def brackets (text : Text) : List Bracket := bracketsFrom .code text

lemma bracketsFrom_append (place : Place) (text other : Text) :
    bracketsFrom place (text ++ other) =
      bracketsFrom place text ++ bracketsFrom (place.after text) other := by
  induction text generalizing place with
  | nil => rfl
  | cons c text ih => simp [bracketsFrom, ih]

/-! ### Blanks -/

lemma bracketsFrom_of_isBlank (blank : ∀ c ∈ text, isBlank c = true) (place : Place) :
    bracketsFrom place text = [] := by
  induction text generalizing place with
  | nil => rfl
  | cons c text ih =>
    obtain ⟨here, later⟩ := List.forall_mem_cons.1 blank
    have noOpening : c ≠ '{' := by
      rintro rfl
      cases here
    have noClosing : c ≠ '}' := by
      rintro rfl
      cases here
    simp [bracketsFrom, Bracket.ofChar?, noOpening, noClosing, ih later]

lemma after_code_of_isBlank (blank : ∀ c ∈ text, isBlank c = true) :
    Place.code.after text = .code := by
  induction text with
  | nil => rfl
  | cons c text ih =>
    obtain ⟨here, later⟩ := List.forall_mem_cons.1 blank
    have noSlash : c ≠ '/' := by
      rintro rfl
      cases here
    rw [Place.after_cons, Place.next, if_neg noSlash, ih later]

/-- Blanks are no braces, and in front they leave the reader outside of comments and not behind a
slash (`after_code_of_isBlank`). -/
lemma brackets_trim (text : Text) : brackets (trim text) = brackets text := by
  obtain ⟨before, after, parts, blank, blank'⟩ := exists_blanks_trim text
  conv_rhs => rw [parts, brackets, bracketsFrom_append, bracketsFrom_append]
  rw [bracketsFrom_of_isBlank blank, bracketsFrom_of_isBlank blank', List.nil_append,
    List.append_nil, after_code_of_isBlank blank, brackets]

/-! ### Texts that can be put together -/

/-- Wherever it stands outside of comments, the text adds the given brackets and ends outside of
comments. -/
def Scans (text : Text) (found : List Bracket) : Prop :=
  ∀ place : Place, place.outside = true →
    bracketsFrom place text = found ∧ (place.after text).outside = true

/-! ### Neutral texts -/

/-- A character that is no brace and cannot make the start or the end of a comment out of a
slash. -/
def isNeutral (c : Char) : Bool := c != '*' && c != '{' && c != '}'

/-- A text of neutral characters, which opens and closes nothing wherever it stands. -/
def Neutral (text : Text) : Prop := ∀ c ∈ text, isNeutral c = true

/-- Classes of characters are defined by tests, and whether a test holds of the three that
`isNeutral` excludes can be decided. -/
lemma isNeutral_of_class {q : Char → Bool} (inside : q c = true)
    (outside : ['*', '{', '}'].any q = false) : isNeutral c = true := by
  have others : c ∉ ['*', '{', '}'] := by
    intro special
    rw [List.any_eq_true.2 ⟨c, special, inside⟩] at outside
    exact Bool.false_ne_true outside.symm
  simpa [isNeutral, and_assoc] using others

namespace Neutral

lemma of_all (h : text.all isNeutral = true) : Neutral text := List.all_eq_true.1 h

lemma of_subset (h : Neutral text) (subset : other ⊆ text) : Neutral other :=
  fun c mem => h c (subset mem)

lemma cons (here : isNeutral c = true) (h : Neutral text) : Neutral (c :: text) :=
  List.forall_mem_cons.2 ⟨here, h⟩

lemma append (h : Neutral text) (h' : Neutral other) : Neutral (text ++ other) :=
  List.forall_mem_append.2 ⟨h, h'⟩

lemma join {parts : List Text} (h : Neutral other) (h' : ∀ part ∈ parts, Neutral part) :
    Neutral (Text.join other parts) := by
  intro c mem
  rcases mem_of_mem_join mem with between | ⟨part, listed, inside⟩
  · exact h c between
  · exact h' part listed c inside

end Neutral

lemma outside_next_of_isNeutral (neutral : isNeutral c = true) (outside : place.outside = true) :
    (place.next c).outside = true := by
  have noStar : c ≠ '*' := by
    rintro rfl
    simp [isNeutral] at neutral
  cases place with
  | code =>
    rw [Place.next]
    split <;> rfl
  | slash =>
    rw [Place.next, if_neg noStar]
    split <;> rfl
  | comment | star => simp [Place.outside] at outside

namespace Scans

lemma nil : Scans [] [] := fun _ outside => ⟨rfl, outside⟩

lemma append (h : Scans text found) (h' : Scans other more) :
    Scans (text ++ other) (found ++ more) := by
  intro place outside
  obtain ⟨first, between⟩ := h place outside
  obtain ⟨second, final⟩ := h' _ between
  rw [bracketsFrom_append, first, second, Place.after_append]
  exact ⟨rfl, final⟩

/-- Without a star no comment begins, even behind a slash (`outside_next_of_isNeutral`), so that the
text may stand at both places outside of comments. -/
lemma of_neutral (neutral : Neutral text) : Scans text [] := by
  induction text with
  | nil => exact nil
  | cons c text ih =>
    obtain ⟨here, later⟩ := List.forall_mem_cons.1 neutral
    intro place outside
    obtain ⟨none, final⟩ := ih later _ (outside_next_of_isNeutral here outside)
    simp only [isNeutral, Bool.and_eq_true, bne_iff_ne] at here
    simp [bracketsFrom, Bracket.ofChar?, here, none, final]

lemma opening : Scans ['{'] [.opening] := by
  intro place outside
  cases place with
  | code | slash => exact ⟨rfl, rfl⟩
  | comment | star => simp [Place.outside] at outside

lemma closing : Scans ['}'] [.closing] := by
  intro place outside
  cases place with
  | code | slash => exact ⟨rfl, rfl⟩
  | comment | star => simp [Place.outside] at outside

/-- `Scans` asks for both places outside of comments, and `Place.slash` differs from `Place.code`
only in what a star does. -/
lemma of_code (start : text.head? ≠ some '*') (read : bracketsFrom .code text = found)
    (ends : (Place.code.after text).outside = true) : Scans text found := by
  intro place outside
  cases place with
  | code => exact ⟨read, ends⟩
  | slash =>
    cases text with
    | nil => exact ⟨read, rfl⟩
    | cons c text =>
      have noStar : c ≠ '*' := by simpa using start
      have same : Place.slash.next c = Place.code.next c := by simp [Place.next, noStar]
      rw [bracketsFrom, Place.after_cons, same]
      exact ⟨read, ends⟩
  | comment | star => simp [Place.outside] at outside

/-- `append` along the list, with `of_neutral` for each separator; the own brackets of the parts are
not changed by what stands between them. -/
lemma join {α : Type} {separator : Text} (neutral : Neutral separator)
    {write : α → Text} {own : α → List Bracket} {parts : List α}
    (h : ∀ part ∈ parts, Scans (write part) (own part)) :
    Scans (Text.join separator (parts.map write)) (parts.flatMap own) := by
  unfold Text.join
  induction parts with
  | nil => exact nil
  | cons part parts ih =>
    obtain ⟨here, later⟩ := List.forall_mem_cons.1 h
    cases parts with
    | nil => simpa using here
    | cons next parts =>
      rw [List.map_cons, List.map_cons, List.intercalate_cons_cons, List.append_assoc,
        List.flatMap_cons]
      simpa using here.append ((of_neutral neutral).append (ih later))

end Scans

end Text

end UtilityCss
