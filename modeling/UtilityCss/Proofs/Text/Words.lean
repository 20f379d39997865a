import UtilityCss.Proofs.Text.Trim

/-!
# The words of a text

Words are split at blanks, so a blank between two texts parts their words (`words_append_blank`) and
the blanks that trimming takes away belong to none (`words_trim`).  A text without blanks is one
word (`words_of_solid`), and a text of one word is that word once it is trimmed (`trim_of_words`).

Cutting a text into parts loses the characters that it is cut at and no others (`flatten_splitOnP`),
and joining parts adds those of the separator (`mem_of_mem_join`).  Parts may be joined all at once
or group by group (`join_map_join`).
-/

namespace UtilityCss.Text

variable {text first second word : Text} {c : Char}

@[simp]
lemma words_nil : words [] = [] := rfl

/-- The law from which the other lemmas about `words` follow: `List.splitOnP` cuts at the blank, and
the empty parts that blanks leave are dropped on both sides. -/
theorem words_append_blank (blank : isBlank c = true) :
    words (first ++ c :: second) = words first ++ words second := by
  rw [words, List.splitOnP_append_cons first second blank, List.filter_append]
  rfl

theorem words_of_solid (given : text ≠ []) (solid : ∀ c ∈ text, isBlank c = false) :
    words text = [text] := by
  rw [words, List.splitOnP_eq_singleton solid]
  simp [given]

lemma words_cons_blank (blank : isBlank c = true) : words (c :: text) = words text := by
  have parted : words ([] ++ c :: text) = words [] ++ words text := words_append_blank blank
  exact parted

lemma words_cons_ne_nil (solid : isBlank c = false) (text : Text) : words (c :: text) ≠ [] := by
  have run : ∀ d ∈ c :: text.takeWhile (!isBlank ·), isBlank d = false := by
    rintro d (_ | ⟨_, mem⟩)
    · exact solid
    · simpa using List.mem_takeWhile_imp mem
  have one := words_of_solid (List.cons_ne_nil c _) run
  -- The first word ends with the text or at a blank.
  cases rest : text.dropWhile (!isBlank ·) with
  | nil =>
    have whole : text.takeWhile (!isBlank ·) = text := by
      simpa [rest] using List.takeWhile_append_dropWhile (p := (!isBlank ·)) (l := text)
    rw [whole] at one
    simp [one]
  | cons b rest' =>
    have whole := List.takeWhile_append_dropWhile (p := (!isBlank ·)) (l := text)
    have blank : isBlank b = true := by
      have head := List.head?_dropWhile_not (!isBlank ·) text
      simpa [rest] using head
    rw [← whole, rest, ← List.cons_append, words_append_blank blank, one]
    exact List.cons_ne_nil _ _

lemma words_eq_nil_iff : words text = [] ↔ ∀ c ∈ text, isBlank c = true := by
  induction text with
  | nil => simp
  | cons c text ih =>
    cases here : isBlank c with
    | true => simp [words_cons_blank here, ih, here]
    | false => simp [words_cons_ne_nil here, here]

theorem words_trim (text : Text) : words (trim text) = words text := by
  have front {blanks rest : Text} (blank : ∀ c ∈ blanks, isBlank c = true) :
      words (blanks ++ rest) = words rest := by
    induction blanks with
    | nil => rfl
    | cons c blanks ih =>
      rw [List.cons_append, words_cons_blank (blank c List.mem_cons_self)]
      exact ih fun d mem => blank d (List.mem_cons_of_mem c mem)
  have back {blanks rest : Text} (blank : ∀ c ∈ blanks, isBlank c = true) :
      words (rest ++ blanks) = words rest := by
    cases blanks with
    | nil => rw [List.append_nil]
    | cons c blanks =>
      have none : words blanks = [] :=
        words_eq_nil_iff.2 fun d mem => blank d (List.mem_cons_of_mem c mem)
      rw [words_append_blank (blank c List.mem_cons_self), none, List.append_nil]
  obtain ⟨before, after, shape, start, finish⟩ := exists_blanks_trim text
  conv_rhs => rw [shape]
  rw [back finish, front start]

lemma words_eq_nil_iff_trim : words text = [] ↔ trim text = [] := by
  constructor
  · intro none
    have blank := words_eq_nil_iff.1 none
    have start : trimStart text = [] := List.dropWhile_eq_nil_iff.2 blank
    rw [trim, start]
    rfl
  · intro none
    rw [← words_trim, none, words_nil]

lemma length_trim_le (text : Text) : (trim text).length ≤ text.length :=
  (List.rdropWhile_prefix isBlank _).length_le.trans (length_dropWhile_le isBlank text)

/-- A blank inside would part the words of both sides (`words_append_blank`), so that one side has
none and is blank throughout (`words_eq_nil_iff`); but at either end `trim` has left no blanks
(`trim_trim`). -/
theorem trim_of_words (single : words text = [word]) : trim text = word := by
  rw [← words_trim] at single
  have given : trim text ≠ [] := fun none => by simp [none] at single
  suffices solid : ∀ c ∈ trim text, isBlank c = false by
    rw [words_of_solid given solid] at single
    exact List.singleton_inj.1 single
  intro c mem
  by_contra blank
  rw [Bool.not_eq_false] at blank
  obtain ⟨first, second, shape⟩ := List.append_of_mem mem
  have total : (words first).length + (words second).length = 1 := by
    simpa [shape, words_append_blank blank] using congrArg List.length single
  have edge : words first = [] ∨ words second = [] := by
    rw [← List.length_eq_zero_iff, ← List.length_eq_zero_iff]
    omega
  have kept := trim_trim text
  -- Blanks up to one end would have been trimmed.
  rcases edge with none | none
  · have start : ∀ d ∈ first ++ [c], isBlank d = true := by
      simpa [or_imp, forall_and, blank] using words_eq_nil_iff.1 none
    rw [shape, List.append_cons, trim_blank_append start] at kept
    have short := length_trim_le second
    simp only [kept, List.length_append, List.length_singleton] at short
    omega
  · have finish : ∀ d ∈ c :: second, isBlank d = true := by
      simpa [blank] using words_eq_nil_iff.1 none
    rw [shape, trim_append_blank finish] at kept
    have short := length_trim_le first
    simp only [kept, List.length_append, List.length_cons] at short
    omega

/-! ## The characters of parts -/

variable {p : Char → Bool} {part separator : Text} {parts : List Text}

theorem flatten_splitOnP (p : Char → Bool) (text : Text) :
    (text.splitOnP p).flatten = text.filter (!p ·) := by
  induction text with
  | nil => rfl
  | cons c text ih =>
    obtain ⟨first, rest, parts⟩ := List.exists_cons_of_ne_nil (List.splitOnP_ne_nil p text)
    rw [List.splitOnP_cons_eq_if_modifyHead]
    rw [parts] at ih ⊢
    by_cases cut : p c = true
    · simpa [cut] using ih
    · simpa [cut] using ih

lemma mem_of_mem_splitOnP (listed : part ∈ text.splitOnP p) (mem : c ∈ part) :
    c ∈ text ∧ p c = false := by
  have kept : c ∈ (text.splitOnP p).flatten := List.mem_flatten_of_mem listed mem
  simpa [flatten_splitOnP] using kept

/-- Empty parts have no characters, so `words` has those of `List.splitOnP`, which are all but the
blanks (`flatten_splitOnP`). -/
lemma exists_mem_words_iff : (∃ word ∈ words text, c ∈ word) ↔ c ∈ text ∧ isBlank c = false := by
  have flat : (words text).flatten = text.filter (!isBlank ·) := by
    rw [words, ← flatten_splitOnP]
    exact List.flatten_filter_ne_nil
  rw [← List.mem_flatten, flat]
  simp

/-! ## Joined parts -/

lemma join_append {first second : List Text} (given : first ≠ []) (more : second ≠ []) :
    join separator (first ++ second) =
      join separator first ++ separator ++ join separator second := by
  unfold join
  induction first with
  | nil => exact absurd rfl given
  | cons part first ih =>
    cases first with
    | nil =>
      rw [List.singleton_append, List.intercalate_cons_of_ne_nil more, List.intercalate_singleton]
    | cons next first =>
      have tail := ih (List.cons_ne_nil next first)
      rw [List.cons_append, List.cons_append, List.intercalate_cons_cons, ← List.cons_append, tail,
        List.intercalate_cons_cons]
      simp only [List.append_assoc]

/-- Joining what was joined group by group is joining everything at once, as `join_append` puts the
separator between two groups; a group without parts would add a separator of its own. -/
theorem join_map_join {groups : List (List Text)} (given : ∀ group ∈ groups, group ≠ []) :
    join separator (groups.map (join separator)) = join separator groups.flatten := by
  induction groups with
  | nil => rfl
  | cons group groups ih =>
    obtain ⟨here, later⟩ := List.forall_mem_cons.1 given
    cases groups with
    | nil => simp [join]
    | cons next groups =>
      have more : (next :: groups).flatten ≠ [] := by
        simp [(List.forall_mem_cons.1 later).1]
      rw [List.flatten_cons, join_append here more, ← ih later]
      exact join_append (List.cons_ne_nil _ []) (List.cons_ne_nil _ _) |>.trans (by simp [join])

lemma mem_join_of_mem (listed : part ∈ parts) (mem : c ∈ part) : c ∈ join separator parts := by
  unfold join
  induction parts with
  | nil => simp at listed
  | cons first parts ih =>
    cases parts with
    | nil => simpa [List.mem_singleton.1 listed] using mem
    | cons next parts =>
      rw [List.intercalate_cons_cons, List.append_assoc]
      rcases List.mem_cons.1 listed with rfl | listed
      · exact List.mem_append_left _ mem
      · exact List.mem_append_right _ (List.mem_append_right _ (ih listed))

theorem mem_of_mem_join (mem : c ∈ join separator parts) :
    c ∈ separator ∨ ∃ part ∈ parts, c ∈ part := by
  unfold join at mem
  induction parts with
  | nil => simp at mem
  | cons first parts ih =>
    cases parts with
    | nil => exact .inr ⟨first, List.mem_cons_self, by simpa using mem⟩
    | cons next parts =>
      rw [List.intercalate_cons_cons, List.mem_append, List.mem_append] at mem
      rcases mem with (mem | mem) | mem
      · exact .inr ⟨first, List.mem_cons_self, mem⟩
      · exact .inl mem
      · refine (ih mem).imp_right ?_
        rintro ⟨part, listed, mem⟩
        exact ⟨part, List.mem_cons_of_mem first listed, mem⟩

/-- `mem_of_mem_join` and `mem_join_of_mem`, with the separator excluded by `foreign`. -/
lemma mem_join_iff (foreign : c ∉ separator) :
    c ∈ join separator parts ↔ ∃ part ∈ parts, c ∈ part :=
  ⟨fun mem => (mem_of_mem_join mem).resolve_left foreign,
    fun ⟨_, listed, mem⟩ => mem_join_of_mem listed mem⟩

end UtilityCss.Text
