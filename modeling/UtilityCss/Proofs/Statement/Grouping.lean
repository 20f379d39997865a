import UtilityCss.Proofs.Statement.PrivateComment

/-!
# The lines of a list of tokens

How tokens are grouped into lines can be said without saying how it is done.  The lines hold all
tokens but the line ends, in their order; none of them is empty; a layer marker is a line of its
own; and two other tokens that are neighbours there are in one line exactly when no line end stood
between them (`Line.Grouping`).

Lists of lines that are not empty and hold the same tokens differ only where one of them goes on
and the other begins a new line (`Line.eq_of_together`), so there is only one list of lines of this
kind, and it is the one that `Line.group` gives (`Line.grouping_iff_eq_group`).
-/

namespace UtilityCss.Line

variable {tokens current before later : List Token} {token next : Token}
  {lines others front back : List (List Token)} {place : Nat}

/-- Of all tokens of the lines, the one at this place and the next are in one line. -/
def Together (lines : List (List Token)) (place : Nat) : Prop :=
  ∃ before line later, lines = before ++ line :: later ∧
    before.flatten.length ≤ place ∧ place + 1 < before.flatten.length + line.length

/-- The tokens without the line ends. -/
def solid (tokens : List Token) : List Token := tokens.filter (·.kind ≠ .symbol .newline)

/-- What is asked of the lines of a list of tokens. -/
structure Grouping (tokens : List Token) (lines : List (List Token)) : Prop where
  given : ∀ line ∈ lines, line ≠ []
  joined : lines.flatten = solid tokens
  alone : ∀ line ∈ lines, ∀ token ∈ line, token.kind = .layer → line = [token]
  /-- Neighbours of which none is a layer marker are in one line, unless a line end stands between
  them. -/
  neighbours : ∀ before token between next later,
    tokens = before ++ token :: (between ++ next :: later) →
    token.inline = true → next.inline = true → (∀ other ∈ between, other.kind = .symbol .newline) →
    (Together lines (solid before).length ↔ between = [])

/-! ## Places in lines -/

lemma Together.lt_length (together : Together lines place) :
    place + 1 < lines.flatten.length := by
  obtain ⟨before, line, later, rfl, -, inside⟩ := together
  simp only [List.flatten_append, List.flatten_cons, List.length_append]
  omega

lemma together_append_iff :
    Together (front ++ back) place ↔
      Together front place ∨
        ∃ further, place = front.flatten.length + further ∧ Together back further := by
  constructor
  · rintro ⟨before, line, later, split, start, inside⟩
    rcases List.append_eq_append_iff.1 split with ⟨gap, rfl, rfl⟩ | ⟨gap, rfl, rest⟩
    · rw [List.flatten_append, List.length_append] at start inside
      exact .inr ⟨place - front.flatten.length, by omega, gap, line, later, rfl, by omega, by omega⟩
    · cases gap with
      | nil =>
        obtain rfl : line :: later = back := by simpa using rest
        rw [List.append_nil]
        have within : place - before.flatten.length + 1 < line.length := by omega
        exact .inr ⟨place - before.flatten.length, by omega, [], line, later, rfl, Nat.zero_le _,
          by simpa using within⟩
      | cons first gap =>
        obtain ⟨rfl, -⟩ := List.cons.inj rest
        exact .inl ⟨before, line, gap, rfl, start, inside⟩
  · rintro (⟨before, line, later, rfl, start, inside⟩ | ⟨further, rfl, together⟩)
    · exact ⟨before, line, later ++ back, by simp, start, inside⟩
    · obtain ⟨before, line, later, rfl, start, inside⟩ := together
      refine ⟨front ++ before, line, later, by simp, ?_, ?_⟩
      · rw [List.flatten_append, List.length_append]
        omega
      · rw [List.flatten_append, List.length_append]
        omega

/-- The places before the border lie in `front` and end one token before it (`Together.lt_length`),
those behind it are counted from `back`. -/
lemma not_together_append (ends : front.flatten.length = place + 1) :
    ¬Together (front ++ back) place := by
  rw [together_append_iff]
  rintro (together | ⟨further, shifted, -⟩)
  · have := together.lt_length
    omega
  · omega

lemma together_shift (front back : List (List Token)) (place : Nat) :
    Together (front ++ back) (front.flatten.length + place) ↔ Together back place := by
  rw [together_append_iff]
  constructor
  · rintro (together | ⟨further, shifted, together⟩)
    · have := together.lt_length
      omega
    · obtain rfl : place = further := by omega
      exact together
  · exact fun together => .inr ⟨place, rfl, together⟩

/-- Otherwise the last token of `line` and the next one would be together in `other` and, by
`not_together_append`, not in `line :: lines`. -/
lemma length_le_of_together {line other : List Token} (given : line ≠ [])
    (same : ∀ place, Together (other :: others) place → Together (line :: lines) place) :
    other.length ≤ line.length := by
  by_contra longer
  have positive := List.length_pos_of_ne_nil given
  have goesOn : Together (other :: others) (line.length - 1) :=
    ⟨[], other, others, rfl, by simp, by simp; omega⟩
  have ends : [line].flatten.length = line.length - 1 + 1 := by
    simp
    omega
  exact not_together_append ends (same _ goesOn)

/-- Induction on the lines: `length_le_of_together` both ways gives the first lines the same length,
and `together_shift` leaves the same question for the others. -/
theorem eq_of_together (given : ∀ line ∈ lines, line ≠ []) (given' : ∀ line ∈ others, line ≠ [])
    (joined : lines.flatten = others.flatten)
    (same : ∀ place, Together lines place ↔ Together others place) : lines = others := by
  induction lines generalizing others with
  | nil =>
    cases others with
    | nil => rfl
    | cons other others =>
      have empty : other = [] := by simpa using (List.append_eq_nil_iff.1 joined.symm).1
      exact absurd empty (given' other List.mem_cons_self)
  | cons line lines ih =>
    obtain ⟨first, given⟩ := List.forall_mem_cons.1 given
    cases others with
    | nil => exact absurd (List.append_eq_nil_iff.1 joined).1 first
    | cons other others =>
      obtain ⟨first', others_given⟩ := List.forall_mem_cons.1 given'
      have length : line.length = other.length :=
        Nat.le_antisymm (length_le_of_together first' fun place => (same place).1)
          (length_le_of_together first fun place => (same place).2)
      obtain ⟨rfl, below⟩ := List.append_inj joined length
      refine congrArg (line :: ·) (ih given others_given below fun place => ?_)
      have shifted := same ([line].flatten.length + place)
      rwa [← List.singleton_append, ← List.singleton_append (l := others), together_shift,
        together_shift] at shifted

/-! ## Neighbours -/

lemma inline_iff :
    token.inline = true ↔ token.kind ≠ .symbol .newline ∧ token.kind ≠ .layer := by
  cases token with
  | symbol kind char => cases kind <;> simp [Token.inline, Token.kind]
  | _ => simp [Token.inline, Token.kind]

lemma solid_append (tokens others : List Token) :
    solid (tokens ++ others) = solid tokens ++ solid others :=
  List.filter_append tokens others

lemma solid_cons (solidToken : token.kind ≠ .symbol .newline) (tokens : List Token) :
    solid (token :: tokens) = token :: solid tokens :=
  List.filter_cons_of_pos (by simpa using solidToken)

lemma solid_cons_lineEnd (lineEnd : token.kind = .symbol .newline) (tokens : List Token) :
    solid (token :: tokens) = solid tokens :=
  List.filter_cons_of_neg (by simpa using lineEnd)

/-- `Grouping.neighbours` speaks of the tokens with their line ends, `Together` of places among
`solid tokens`; this leads from a place to its neighbours. -/
lemma exists_neighbours (inside : place + 1 < (solid tokens).length) :
    ∃ before token between next later, tokens = before ++ token :: (between ++ next :: later) ∧
      (∀ other ∈ between, other.kind = .symbol .newline) ∧ (solid before).length = place ∧
      (solid tokens)[place]? = some token ∧ (solid tokens)[place + 1]? = some next := by
  have split : solid tokens = (solid tokens).take place ++
      (solid tokens)[place] :: (solid tokens)[place + 1] :: (solid tokens).drop (place + 2) := by
    simp
  obtain ⟨front, back, whole, upper, lower⟩ := List.filter_eq_append_iff.1 split
  obtain ⟨gap, rest, rfl, ends, -, lower⟩ := List.filter_eq_cons_iff.1 lower
  obtain ⟨between, later, rfl, lineEnds, -, -⟩ := List.filter_eq_cons_iff.1 lower
  have skipped : solid gap = [] := List.filter_eq_nil_iff.2 ends
  refine ⟨front ++ gap, _, between, _, later, by rw [whole, List.append_assoc], ?_, ?_, ?_, ?_⟩
  · simpa using lineEnds
  · rw [solid_append, skipped, List.append_nil, solid, upper, List.length_take]
    omega
  · exact List.getElem?_eq_getElem _
  · exact List.getElem?_eq_getElem _

/-- With this a layer marker, which is alone on its line (`Grouping.alone`), is together with no
token (`Grouping.not_together`). -/
lemma Together.exists_line (together : Together lines place) :
    ∃ line ∈ lines, 2 ≤ line.length ∧
      ∀ token, lines.flatten[place]? = some token ∨ lines.flatten[place + 1]? = some token →
        token ∈ line := by
  obtain ⟨before, line, later, rfl, start, inside⟩ := together
  refine ⟨line, by simp, by omega, fun token => ?_⟩
  have within {further : Nat} (begun : before.flatten.length ≤ further)
      (ends : further < before.flatten.length + line.length)
      (found : (before ++ line :: later).flatten[further]? = some token) : token ∈ line := by
    rw [List.flatten_append, List.flatten_cons, List.getElem?_append_right begun,
      List.getElem?_append_left (by omega)] at found
    exact List.mem_of_getElem? found
  rintro (found | found)
  · exact within start (by omega) found
  · exact within (by omega) inside found

lemma Grouping.not_together (grouping : Grouping tokens lines) (layer : token.kind = .layer)
    (found : (solid tokens)[place]? = some token ∨ (solid tokens)[place + 1]? = some token) :
    ¬Together lines place := by
  intro together
  obtain ⟨line, listed, long, mem⟩ := together.exists_line
  rw [← grouping.joined] at found
  rw [grouping.alone line listed token (mem token found) layer] at long
  simp at long

/-- A place is beyond the end, or next to a layer marker, or between two tokens that
`Grouping.neighbours` speaks of; each time the lines do not matter. -/
lemma Grouping.together_iff (grouping : Grouping tokens lines) (other : Grouping tokens others) :
    Together lines place ↔ Together others place := by
  by_cases inside : place + 1 < (solid tokens).length
  · obtain ⟨before, token, between, next, later, split, lineEnds, rfl, first, second⟩ :=
      exists_neighbours inside
    by_cases markers : token.kind = .layer ∨ next.kind = .layer
    · rcases markers with layer | layer
      · exact iff_of_false (grouping.not_together layer (.inl first))
          (other.not_together layer (.inl first))
      · exact iff_of_false (grouping.not_together layer (.inr second))
          (other.not_together layer (.inr second))
    · have kept {token : Token} {place : Nat} (found : (solid tokens)[place]? = some token) :
          token.kind ≠ .symbol .newline := by
        simpa using (List.mem_filter.1 (List.mem_of_getElem? found)).2
      rw [not_or] at markers
      have inline := inline_iff.2 ⟨kept first, markers.1⟩
      have inline' := inline_iff.2 ⟨kept second, markers.2⟩
      exact (grouping.neighbours _ _ _ _ _ split inline inline' lineEnds).trans
        (other.neighbours _ _ _ _ _ split inline inline' lineEnds).symm
  · have beyond {lines : List (List Token)} (grouping : Grouping tokens lines) :
        ¬Together lines place := fun together => inside (grouping.joined ▸ together.lt_length)
    exact iff_of_false (beyond grouping) (beyond other)

/-! ## Lines that are gathered -/

lemma flatten_flush (current : List Token) : (flush current).flatten = current.reverse := by
  unfold flush
  split
  · simp [*]
  · simp

lemma flatten_groupFrom (current tokens : List Token) :
    (groupFrom current tokens).flatten = current.reverse ++ solid tokens := by
  fun_induction groupFrom current tokens with
  | case1 current => simp [flatten_flush, solid]
  | case2 current char tokens ih => simp [flatten_flush, ih, solid, Token.kind]
  | case3 current name edge tokens ih => simp [flatten_flush, ih, solid, Token.kind]
  | case4 current token tokens notNewline notLayer ih =>
    have inline := inline_iff.1 (Token.inline_of_ne notNewline notLayer)
    rw [ih, solid_cons inline.1, List.reverse_cons, List.append_assoc, List.singleton_append]

lemma ne_nil_of_mem_groupFrom {line : List Token} (mem : line ∈ groupFrom current tokens) :
    line ≠ [] := by
  have flushed {current : List Token} (last : line ∈ flush current) : line ≠ [] := by
    unfold flush at last
    split at last
    · simp at last
    · obtain rfl := List.mem_singleton.1 last
      simpa
  fun_induction groupFrom current tokens with
  | case1 current => exact flushed mem
  | case2 current char tokens ih => exact (List.mem_append.1 mem).elim flushed ih
  | case3 current name edge tokens ih =>
    rcases List.mem_append.1 mem with last | later
    · exact flushed last
    · rcases List.mem_cons.1 later with rfl | later
      · simp
      · exact ih later
  | case4 current token tokens notNewline notLayer ih => exact ih mem

/-- Induction on what is read before the two tokens; the line that is being gathered counts with its
length, since its tokens stand before all others. -/
lemma together_groupFrom (first : token.inline = true) (second : next.inline = true)
    (current before later : List Token) :
    Together (groupFrom current (before ++ token :: next :: later))
      (current.length + (solid before).length) := by
  have flushed (current : List Token) : current.length = (flush current).flatten.length := by
    rw [flatten_flush, List.length_reverse]
  fun_induction groupFrom current before with
  | case1 current =>
    rw [List.nil_append, groupFrom_inline first, groupFrom_inline second]
    obtain ⟨more, lines, gathered⟩ :=
      groupFrom_begins (List.cons_ne_nil next (token :: current)) later
    rw [gathered]
    exact ⟨[], _, lines, rfl, Nat.zero_le _, by simp [solid]⟩
  | case2 current char before ih =>
    rw [List.cons_append, groupFrom, solid_cons_lineEnd rfl, flushed, together_shift]
    simpa using ih
  | case3 current name edge before ih =>
    have markers : current.length + (solid (.layer name edge :: before)).length =
        (flush current ++ [[Token.layer name edge]]).flatten.length + (solid before).length := by
      rw [solid_cons (by simp [Token.kind]), List.flatten_append, List.length_append, ← flushed]
      simp
      omega
    rw [List.cons_append, groupFrom, markers, List.append_cons, together_shift]
    simpa using ih
  | case4 current other before notNewline notLayer ih =>
    have inline := Token.inline_of_ne notNewline notLayer
    rw [List.cons_append, groupFrom_inline inline, solid_cons (inline_iff.1 inline).1]
    simpa [Nat.add_assoc, Nat.add_comm 1] using ih

/-- `groupFrom_append` cuts the lines at the line end, and `not_together_append` applies at the
cut. -/
lemma not_together_group (inline : token.inline = true) (lineEnd : next.kind = .symbol .newline)
    (before later : List Token) :
    ¬Together (group (before ++ token :: next :: later)) (solid before).length := by
  obtain ⟨char, rfl⟩ : ∃ char, next = .symbol .newline char := by
    cases next <;> simp_all [Token.kind]
  have cut : group (before ++ token :: .symbol .newline char :: later) =
      group (before ++ [token]) ++ group later := by
    rw [List.append_cons]
    exact groupFrom_append fun _ => rfl
  rw [cut]
  refine not_together_append ?_
  rw [group, flatten_groupFrom, solid_append, solid_cons (inline_iff.1 inline).1]
  simp [solid]

lemma grouping_group (tokens : List Token) : Grouping tokens (group tokens) where
  given _ := ne_nil_of_mem_groupFrom
  joined := flatten_groupFrom [] tokens
  alone line grouped token mem layer := by
    rcases inline_of_mem_groupFrom (by simp) grouped with ⟨name, edge, rfl⟩ | inline
    · rw [List.mem_singleton.1 mem]
    · exact absurd layer (inline_iff.1 (inline token mem)).2
  neighbours before token between next later split first second lineEnds := by
    subst split
    cases between with
    | nil =>
      have together := together_groupFrom first second [] before later
      rw [List.length_nil, Nat.zero_add] at together
      exact iff_of_true together rfl
    | cons lineEnd between =>
      have ends := lineEnds lineEnd List.mem_cons_self
      exact iff_of_false (not_together_group first ends before _) (List.cons_ne_nil _ _)

/-- `Grouping` says nothing of how lines are gathered, and still there is only one list of lines for
which it holds (`eq_of_together`), which is the one that `group` gives. -/
theorem grouping_iff_eq_group (tokens : List Token) (lines : List (List Token)) :
    Grouping tokens lines ↔ lines = group tokens := by
  have grouped := grouping_group tokens
  constructor
  · intro grouping
    exact eq_of_together grouping.given grouped.given (grouping.joined.trans grouped.joined.symm)
      fun _ => grouping.together_iff grouped
  · rintro rfl
    exact grouped

end UtilityCss.Line
