import Mathlib.Tactic.Lemma
import UtilityCss.Media

/-!
# Turning a condition round

A condition is turned round by replacing the name of the lower bound by that of the upper bound
wherever it occurs.  In the condition for a width the feature is always replaced, and nothing else
is unless the width mentions the lower bound itself (`Media.oriented_bound_eq_iff`).  A custom
property may well do so: its name is free.
-/

namespace UtilityCss

namespace Text

variable {c d : Char} {word replacement text beginning rest tail : Text}

/-! ## Replacing a word -/

lemma after?_eq_some_iff : after? beginning text = some rest ↔ text = beginning ++ rest := by
  constructor
  · exact after?_eq_some
  · rintro rfl
    exact after?_append beginning rest

lemma after?_eq_none_iff : after? beginning text = none ↔ ¬ beginning <+: text := by
  rw [Option.eq_none_iff_forall_ne_some]
  constructor
  · rintro none ⟨rest, rfl⟩
    exact none rest (after?_append beginning rest)
  · intro apart rest found
    exact apart ⟨rest, (after?_eq_some found).symm⟩

lemma replaceWord_of_found (found : after? (c :: word) (d :: rest) = some tail) :
    replaceWord c word replacement (d :: rest) =
      replacement ++ replaceWord c word replacement tail := by
  rw [replaceWord]
  split
  · rename_i other same
    rw [found] at same
    rw [Option.some.inj same]
  · rename_i none
    simp [found] at none

lemma replaceWord_of_none (none : after? (c :: word) (d :: rest) = none) :
    replaceWord c word replacement (d :: rest) = d :: replaceWord c word replacement rest := by
  rw [replaceWord]
  split
  · rename_i found
    simp [none] at found
  · rfl

/-- A character that the word does not have ends every occurrence of the word before it.  In
`Media.bound` this is the parenthesis behind the width. -/
lemma replaceWord_append_singleton (foreign : d ∉ c :: word) :
    replaceWord c word replacement (text ++ [d]) =
      replaceWord c word replacement text ++ [d] := by
  fun_induction replaceWord c word replacement text with
  | case1 =>
    have none : after? (c :: word) (d :: []) = none := by
      have apart : c ≠ d := fun same => foreign (same ▸ List.mem_cons_self)
      simp [after?, apart]
    rw [List.nil_append, replaceWord_of_none none, replaceWord]
  | case2 e rest tail found ih =>
    have longer : after? (c :: word) (e :: (rest ++ [d])) = some (tail ++ [d]) := by
      rw [after?_eq_some_iff, ← List.cons_append, after?_eq_some found, List.append_assoc]
    rw [List.cons_append, replaceWord_of_found longer, ih, List.append_assoc]
  | case3 e rest absent ih =>
    have longer : after? (c :: word) (e :: (rest ++ [d])) = none := by
      rw [after?_eq_none_iff] at absent ⊢
      rintro ⟨tail, same⟩
      rw [← List.cons_append] at same
      rcases List.eq_nil_or_concat tail with rfl | ⟨front, last, rfl⟩
      · rw [List.append_nil] at same
        exact foreign (same ▸ List.mem_append_right _ List.mem_cons_self)
      · rw [List.concat_eq_append, ← List.append_assoc] at same
        exact absent ⟨front, (List.append_inj' same rfl).1⟩
    rw [List.cons_append, replaceWord_of_none longer, ih, List.cons_append]

/-- A replacement of the same length changes a text exactly when the word occurs in it, since the
characters behind an occurrence keep their places. -/
lemma replaceWord_eq_self_iff (different : replacement ≠ c :: word)
    (length : replacement.length = (c :: word).length) :
    replaceWord c word replacement text = text ↔ ¬ c :: word <:+: text := by
  fun_induction replaceWord c word replacement text with
  | case1 => simp
  | case2 e rest tail found ih =>
    rw [after?_eq_some found]
    constructor
    · intro same
      exact absurd (List.append_inj same length).1 different
    · intro absent
      exact absurd (List.prefix_append _ _).isInfix absent
  | case3 e rest none ih =>
    rw [List.cons_inj_right, ih, List.infix_cons_iff, not_or]
    exact ⟨fun absent => ⟨after?_eq_none_iff.1 none, absent⟩, And.right⟩

/-- A character that the replaced word does not have is not lost, so that `Media.isValid` of the
result says something about the condition before. -/
lemma mem_replaceAll (foreign : c ∉ word) (mem : c ∈ text) :
    c ∈ replaceAll word replacement text := by
  cases word with
  | nil => exact mem
  | cons d word =>
    change c ∈ replaceWord d word replacement text
    fun_induction replaceWord d word replacement text with
    | case1 => exact mem
    | case2 e rest tail found ih =>
      rw [after?_eq_some found] at mem
      exact List.mem_append_right _ (ih ((List.mem_append.1 mem).resolve_left foreign))
    | case3 e rest none ih =>
      rcases List.mem_cons.1 mem with rfl | later
      · exact List.mem_cons_self
      · exact List.mem_cons_of_mem e (ih later)

end Text

/-! ## The condition for a width -/

namespace Media

variable {mobileFirst : Bool} {width other : Text}

/-- The condition that a width bounds the viewport: from below if small screens come first, and
otherwise from above. -/
def bound (mobileFirst : Bool) (width : Text) : Text :=
  "(" ++ (if mobileFirst then minWidth else maxWidth) ++ ": " ++ width ++ ")"

lemma bound_inj : bound mobileFirst width = bound mobileFirst other ↔ width = other := by
  simp [bound]

lemma bound_ne_nil (mobileFirst : Bool) (width : Text) : bound mobileFirst width ≠ [] := by
  simp [bound]

/-- `Media.oriented` works on the whole text of a condition, so the upper bound replaces the lower
bound in the feature, and also in the width. -/
lemma oriented_false_bound (width : Text) :
    oriented false (bound true width) =
      bound false (Text.replaceAll minWidth maxWidth width) := by
  have spelled : bound true width = '(' :: (minWidth ++ ':' :: ' ' :: (width ++ [')'])) := by
    simp [bound]
  have opening : Text.after? minWidth (bound true width) = none := by
    rw [spelled]
    rfl
  have feature : Text.after? minWidth ('m' :: (minWidth.tail ++ ':' :: ' ' :: (width ++ [')']))) =
      some (':' :: ' ' :: (width ++ [')'])) := Text.after?_append minWidth _
  have colon : Text.after? minWidth (':' :: ' ' :: (width ++ [')'])) = none := rfl
  have blank : Text.after? minWidth (' ' :: (width ++ [')'])) = none := rfl
  rw [spelled] at opening
  rw [oriented, if_neg Bool.false_ne_true, spelled]
  unfold Text.replaceAll
  unfold minWidth at opening feature colon blank ⊢
  simp only [List.tail_cons] at feature ⊢
  rw [Text.replaceWord_of_none opening, List.cons_append, Text.replaceWord_of_found feature,
    Text.replaceWord_of_none colon, Text.replaceWord_of_none blank,
    Text.replaceWord_append_singleton (by decide)]
  simp [bound]

/-- The condition for a width says just that, from below or from above, unless the width itself
mentions `minWidth` and is turned round too (`oriented_false_bound`). -/
theorem oriented_bound_eq_iff : oriented mobileFirst (bound true width) = bound mobileFirst width ↔
    mobileFirst = true ∨ ¬ minWidth <:+: width := by
  cases mobileFirst with
  | true => simp [oriented]
  | false =>
    have replaced : Text.replaceAll minWidth maxWidth width = width ↔ ¬ minWidth <:+: width :=
      Text.replaceWord_eq_self_iff (by decide) rfl
    rw [oriented_false_bound, bound_inj, replaced]
    simp

end Media

end UtilityCss
