import Mathlib.Data.List.Forall2
import UtilityCss.Import.Directive
import UtilityCss.Proofs.Text.Trim
import UtilityCss.Proofs.Text.Words

/-!
# Directives that are followed and lines that are blanked

Two readers look for directives in a file.  `Directive.scan` goes from line to line and follows what
it finds, over line ends where the blanks or the path of a directive have some.
`Directive.isDirectiveLine` looks at one line and asks that nothing else stand on it.

Both are measured against one account of how a directive is spelled (`Directive.Spelling`): a file
is cut into lines where no directive begins and directives with what stands behind them
(`Directive.Cut`).  The directives of the cut are the ones that are followed.  A directive that
stands on one line is blanked if it stands there alone and kept as it is otherwise, and no line
outside the directives is blanked (`Directive.Passage.Stripped`).  So both readers find the same
directives exactly in the files whose directives all stand alone (`Directive.scan_cut`).
-/

namespace UtilityCss

namespace Directive

/-! ## How a directive is spelled -/

/-- A directive as it is written: an indentation, the keyword, blanks, and a path in parentheses. -/
structure Spelling where
  kind : DirectiveKind
  word : Text
  indent : Text
  gap : Text
  path : Text
  known : (kind, word) ∈ keywords
  indented : ∀ c ∈ indent, isIndent c = true
  parted : gap ≠ []
  blank : ∀ c ∈ gap, isBlank c = true
  given : path ≠ []
  closed : ')' ∉ path

namespace Spelling

/-- What is written before the closing parenthesis. -/
def opening (s : Spelling) : Text := s.indent ++ s.word ++ s.gap ++ '(' :: s.path

def text (s : Spelling) : Text := s.opening ++ [')']

def directive (s : Spelling) : Directive := ⟨s.kind, Text.trim s.path⟩

/-- The directive stands on one line, and the rest of the line is spaces and tabs. -/
def Alone (s : Spelling) (trail : Text) : Prop :=
  '\n' ∉ s.text ∧ (∀ c ∈ s.gap, isIndent c = true) ∧ ∀ c ∈ trail, isIndent c = true

end Spelling

variable {kind : DirectiveKind} {word indent inner rest text line : Text} {d : Directive}

lemma isBlank_of_isIndent {c : Char} (indent : isIndent c = true) : isBlank c = true := by
  obtain rfl | rfl : c = ' ' ∨ c = '\t' := by simpa [isIndent] using indent
  all_goals rfl

lemma solid_of_mem_word (known : (kind, word) ∈ keywords) {c : Char} (mem : c ∈ word) :
    isBlank c = false ∧ c ≠ ')' := by
  have all : keywords.all (·.2.all fun c => !isBlank c && c != ')') = true := rfl
  have each := List.all_eq_true.1 (List.all_eq_true.1 all _ known) c mem
  simpa using each

/-- `keywords` is searched by the word, and two `Spelling`s of one `DirectiveKind` have to have the
same one. -/
lemma word_unique {other : Text} (known : (kind, word) ∈ keywords)
    (known' : (kind, other) ∈ keywords) : word = other := by
  cases kind <;> simp_all [keywords]

/-- A keyword begins with a character that is not blank, so that `isIndent` takes the indentation
before it and no more. -/
lemma exists_cons_of_word (known : (kind, word) ∈ keywords) :
    ∃ c tail, word = c :: tail ∧ isBlank c = false := by
  cases word with
  | nil => simp [keywords] at known
  | cons c tail => exact ⟨c, tail, rfl, (solid_of_mem_word known List.mem_cons_self).1⟩

lemma keyword?_append (known : (kind, word) ∈ keywords)
    (indented : ∀ c ∈ indent, isIndent c = true) (rest : Text) :
    keyword? (indent ++ (word ++ rest)) = some (kind, rest) := by
  unfold keyword?
  rw [List.dropWhile_append_of_pos indented]
  obtain ⟨rfl, rfl⟩ | ⟨rfl, rfl⟩ :
      kind = .sibling ∧ word = "IMPORT" ∨ kind = .template ∧ word = "TEMPLATE" := by
    simpa [keywords] using known
  all_goals simp [keywords, isIndent, Text.after?]

lemma keyword?_eq_some (found : keyword? line = some (kind, rest)) :
    ∃ indent word, (kind, word) ∈ keywords ∧ (∀ c ∈ indent, isIndent c = true) ∧
      line = indent ++ (word ++ rest) := by
  obtain ⟨⟨kind, word⟩, known, found⟩ := List.exists_of_findSome?_eq_some found
  obtain ⟨tail, after, same⟩ := Option.map_eq_some_iff.1 found
  obtain ⟨rfl, rfl⟩ := Prod.mk.inj same
  refine ⟨line.takeWhile isIndent, word, known, fun c => List.mem_takeWhile_imp, ?_⟩
  rw [← Text.after?_eq_some after, List.takeWhile_append_dropWhile]

lemma parenthesized?_eq_some_iff :
    parenthesized? text = some (inner, rest) ↔
      text = '(' :: (inner ++ ')' :: rest) ∧ inner ≠ [] ∧ ')' ∉ inner := by
  constructor
  · intro found
    unfold parenthesized? at found
    split at found
    · rename_i text
      have inside : ')' ∉ text.takeWhile (· != ')') := fun mem => by
        simpa using List.mem_takeWhile_imp mem
      have whole := List.takeWhile_append_dropWhile (p := (· != ')')) (l := text)
      dsimp only at found
      split at found
      · rename_i c tail dropped
        obtain rfl : c = ')' := by
          have ended := List.head?_dropWhile_not (· != ')') text
          rw [dropped] at ended
          simpa using ended
        split at found
        · simp at found
        · obtain ⟨rfl, rfl⟩ := Prod.mk.inj (Option.some.inj found)
          rw [dropped] at whole
          exact ⟨congrArg _ whole.symm, ‹_›, inside⟩
      · simp at found
    · simp at found
  · rintro ⟨rfl, given, closed⟩
    have open' : ∀ c ∈ inner, (c != ')') = true :=
      fun c mem => bne_iff_ne.2 (ne_of_mem_of_not_mem mem closed)
    simp [parenthesized?, List.takeWhile_append_of_pos open', List.dropWhile_append_of_pos open',
      given]

lemma Spelling.text_append (s : Spelling) (rest : Text) :
    s.text ++ rest = s.indent ++ (s.word ++ (s.gap ++ '(' :: (s.path ++ ')' :: rest))) := by
  simp [text, opening]

lemma Spelling.exists_head? (s : Spelling) :
    ∃ c ∈ s.gap, ∀ rest, (s.gap ++ rest).head? = some c := by
  obtain ⟨c, gap, first⟩ := List.exists_cons_of_ne_nil s.parted
  exact ⟨c, by simp [first], fun rest => by simp [first]⟩

lemma Spelling.parenthesized?_path (s : Spelling) (rest : Text) :
    parenthesized? ('(' :: (s.path ++ ')' :: rest)) = some (s.path, rest) :=
  parenthesized?_eq_some_iff.2 ⟨rfl, s.given, s.closed⟩

/-- What `match?` and `isDirectiveLine` ask of a line in common.  They differ in the class `p` of
the characters between the keyword and the path: blanks for the one, spaces and tabs for the
other. -/
lemma exists_spelling {p : Char → Bool} {path : Text} (blank : ∀ c, p c = true → isBlank c = true)
    (keyword : keyword? line = some (kind, text)) (spaced : text.head?.any p = true)
    (parenthesized : parenthesized? (text.dropWhile p) = some (path, rest)) :
    ∃ s : Spelling, s.directive = ⟨kind, Text.trim path⟩ ∧ line = s.text ++ rest := by
  obtain ⟨indent, word, known, indented, rfl⟩ := keyword?_eq_some keyword
  obtain ⟨after, given, closed⟩ := parenthesized?_eq_some_iff.1 parenthesized
  have parted : text.takeWhile p ≠ [] := by
    cases text with
    | nil => simp at spaced
    | cons c tail =>
      have first : p c = true := by simpa using spaced
      simp [List.takeWhile_cons_of_pos first]
  let s : Spelling := ⟨kind, word, indent, text.takeWhile p, path, known, indented, parted,
    fun c mem => blank c (List.mem_takeWhile_imp mem), given, closed⟩
  have split : text = s.gap ++ '(' :: (s.path ++ ')' :: rest) := by
    rw [← after]
    exact List.takeWhile_append_dropWhile.symm
  exact ⟨s, rfl, by rw [s.text_append, ← split]⟩

/-- `match?` finds exactly the texts that a `Spelling` writes, which lets the proofs below speak of
spellings and leave the reader alone. -/
lemma match?_eq_some_iff :
    match? text = some (d, rest) ↔ ∃ s : Spelling, s.directive = d ∧ text = s.text ++ rest := by
  constructor
  · intro found
    obtain ⟨⟨kind, behind⟩, keyword, found⟩ := Option.bind_eq_some_iff.1 found
    dsimp only at found
    split at found
    · rename_i spaced
      obtain ⟨⟨path, tail⟩, parenthesized, found⟩ := Option.bind_eq_some_iff.1 found
      obtain ⟨rfl, rfl⟩ := Prod.mk.inj (Option.some.inj found)
      exact exists_spelling (fun c => id) keyword spaced parenthesized
    · simp at found
  · rintro ⟨s, rfl, rfl⟩
    obtain ⟨c, mem, first⟩ := s.exists_head?
    have trimmed (rest : Text) : Text.trimStart (s.gap ++ '(' :: rest) = '(' :: rest := by
      rw [Text.trimStart, List.dropWhile_append_of_pos s.blank]
      rfl
    rw [s.text_append, match?, keyword?_append s.known s.indented]
    simp [first, s.blank c mem, trimmed, s.parenthesized?_path, Spelling.directive]

/-- `isDirectiveLine` is the stricter of the two readers: what it blanks, `match?` would follow. -/
lemma exists_spelling_of_isDirectiveLine (alone : isDirectiveLine line = true) :
    ∃ (s : Spelling) (trail : Text), line = s.text ++ trail := by
  unfold isDirectiveLine at alone
  split at alone
  · simp at alone
  · rename_i kind behind keyword
    obtain ⟨spaced, alone⟩ := Bool.and_eq_true_iff.1 alone
    split at alone
    · rename_i path trail parenthesized
      obtain ⟨s, -, whole⟩ :=
        exists_spelling (fun c => isBlank_of_isIndent) keyword spaced parenthesized
      exact ⟨s, trail, whole⟩
    · simp at alone

/-- Where the two readers part: `isDirectiveLine` also wants the gap of the `Spelling` and what
trails it to be `isIndent`. -/
lemma isDirectiveLine_text_append (s : Spelling) (trail : Text) :
    isDirectiveLine (s.text ++ trail) = true ↔
      (∀ c ∈ s.gap, isIndent c = true) ∧ ∀ c ∈ trail, isIndent c = true := by
  rw [s.text_append, isDirectiveLine, keyword?_append s.known s.indented]
  obtain ⟨c, mem, first⟩ := s.exists_head?
  by_cases narrow : ∀ c ∈ s.gap, isIndent c = true
  · have dropped : (s.gap ++ '(' :: (s.path ++ ')' :: trail)).dropWhile isIndent =
        '(' :: (s.path ++ ')' :: trail) := by
      rw [List.dropWhile_append_of_pos narrow]
      rfl
    simp only [dropped, s.parenthesized?_path, first, Option.any_some, narrow c mem,
      Bool.true_and, List.all_eq_true]
    exact (and_iff_right narrow).symm
  · -- what is left of the gap begins with a blank, which is no parenthesis
    have left : s.gap.dropWhile isIndent ≠ [] := fun none =>
      narrow (List.dropWhile_eq_nil_iff.1 none)
    obtain ⟨b, tail, next⟩ := List.exists_cons_of_ne_nil left
    have blank : isBlank b = true :=
      s.blank b ((List.dropWhile_suffix isIndent).mem (next ▸ List.mem_cons_self))
    have other : parenthesized? ((s.gap ++ '(' :: (s.path ++ ')' :: trail)).dropWhile isIndent) =
        none := by
      rw [List.dropWhile_append, next]
      cases found : parenthesized? (b :: tail ++ '(' :: (s.path ++ ')' :: trail)) with
      | none => simpa using found
      | some pair =>
        obtain ⟨rfl, -⟩ := List.cons.inj (parenthesized?_eq_some_iff.1 found).1
        cases blank
    simp [other, narrow]

/-! ## A directive that goes over several lines -/

namespace Spelling

variable {s t : Spelling} {above trail : Text}

lemma not_mem_opening (s : Spelling) : ')' ∉ s.opening := by
  have indent : ')' ∉ s.indent := fun mem => by cases s.indented _ mem
  have word : ')' ∉ s.word := fun mem => (solid_of_mem_word s.known mem).2 rfl
  have gap : ')' ∉ s.gap := fun mem => by cases s.blank _ mem
  simp [opening, indent, word, gap, s.closed]

lemma takeWhile_opening (s : Spelling) : s.opening.takeWhile isBlank = s.indent := by
  obtain ⟨c, tail, first, solid⟩ := exists_cons_of_word s.known
  have blank : ∀ c ∈ s.indent, isBlank c = true :=
    fun c mem => isBlank_of_isIndent (s.indented c mem)
  simp [opening, first, List.takeWhile_append_of_pos blank, solid]

/-- A measure of a `Spelling` that does not depend on how its blanks are chosen.  `directive_ne`
compares two spellings by it. -/
lemma countP_opening (s : Spelling) :
    s.opening.countP (!isBlank ·) =
      s.word.length + (s.directive.path.countP (!isBlank ·) + 1) := by
  have none {text : Text} (blank : ∀ c ∈ text, isBlank c = true) :
      text.countP (!isBlank ·) = 0 := by simpa [List.countP_eq_zero] using blank
  have indent := none fun c mem => isBlank_of_isIndent (s.indented c mem)
  have word : s.word.countP (!isBlank ·) = s.word.length :=
    List.countP_eq_length.2 fun c mem => by simp [(solid_of_mem_word s.known mem).1]
  have parenthesis : (!isBlank '(') = true := rfl
  obtain ⟨before, after, split, blank, blank'⟩ := Text.exists_blanks_trim s.path
  have path : s.path.countP (!isBlank ·) = s.directive.path.countP (!isBlank ·) := by
    conv_lhs => rw [split]
    simp [none blank, none blank', directive]
  simp [opening, indent, word, none s.blank, parenthesis, path]

/-- If the last line of a directive over several lines spelled the same directive, `countP_opening`
would leave no solid character for the lines above, and the line end would belong to the
indentation. -/
lemma directive_ne (split : s.opening = above ++ '\n' :: t.opening) :
    t.directive ≠ s.directive := by
  intro same
  have word : t.word = s.word := by
    have kind : t.kind = s.kind := congrArg Directive.kind same
    exact word_unique (kind ▸ t.known) s.known
  have counted := s.countP_opening
  rw [split, List.countP_append, List.countP_cons, t.countP_opening, word, same] at counted
  have blank : ∀ c ∈ above, isBlank c = true := by
    have none : above.countP (!isBlank ·) = 0 := by omega
    simpa [List.countP_eq_zero] using none
  have lineEnd : '\n' ∈ s.indent := by
    rw [← s.takeWhile_opening, split, List.takeWhile_append_of_pos blank]
    simp [show isBlank '\n' = true from rfl]
  cases s.indented _ lineEnd

end Spelling

/-! ## The lines of a file -/

/-- A piece of a file: a line where no directive begins, or a directive and what stands behind it on
its last line. -/
inductive Passage
  | plain (line : Text)
  | directive (s : Spelling) (trail : Text)

namespace Passage

def lines : Passage → List Text
  | plain line => [line]
  | directive s trail => (s.text ++ trail).splitOn '\n'

def followed : Passage → List Directive
  | plain _ => []
  | directive s _ => [s.directive]

/-- What the lines of a passage become.  Which lines of a directive over several lines are kept is
left open. -/
inductive Stripped : Passage → List Text → Prop
  | plain (line : Text) : Stripped (plain line) [line]
  | blanked {s : Spelling} {trail : Text} (alone : s.Alone trail) :
      Stripped (directive s trail) [[]]
  | kept {s : Spelling} {trail : Text} (oneLine : '\n' ∉ s.text) (joined : ¬ s.Alone trail) :
      Stripped (directive s trail) [s.text ++ trail]
  | several {s : Spelling} {trail : Text} {body : List Text} (lineEnd : '\n' ∈ s.text)
      (each : List.Forall₂ (fun line left => left = line ∨ left = []) (directive s trail).lines
        body) :
      Stripped (directive s trail) body

end Passage

/-- Lines are cut into passages: a directive is taken where one begins, with all its lines. -/
inductive Cut : List Text → List Passage → Prop
  | done : Cut [] []
  | plain {line : Text} {below : List Text} {passages : List Passage}
      (silent : ∀ s : Spelling, ¬ s.text <+: Text.join "\n" (line :: below))
      (rest : Cut below passages) : Cut (line :: below) (.plain line :: passages)
  | directive {s : Spelling} {trail : Text} {below : List Text} {passages : List Passage}
      (ended : '\n' ∉ trail) (rest : Cut below passages) :
      Cut ((Passage.directive s trail).lines ++ below) (.directive s trail :: passages)

variable {lines : List Text} {passages : List Passage} {trail : Text}

lemma nextLine_cases (text : Text) :
    ('\n' ∉ text ∧ nextLine text = []) ∨
      ∃ line, '\n' ∉ line ∧ text = line ++ '\n' :: nextLine text := by
  by_cases mem : '\n' ∈ text
  · obtain ⟨line, below, rfl, fresh⟩ := List.eq_append_cons_of_mem mem
    have solid : ∀ c ∈ line, (c != '\n') = true :=
      fun c mem => bne_iff_ne.2 (ne_of_mem_of_not_mem mem fresh)
    refine .inr ⟨line, fresh, ?_⟩
    simp [nextLine, List.dropWhile_append_of_pos solid]
  · have solid : ∀ c ∈ text, (c != '\n') = true :=
      fun c listed => bne_iff_ne.2 (ne_of_mem_of_not_mem listed mem)
    exact .inl ⟨mem, by rw [nextLine, List.dropWhile_eq_nil_iff.2 solid]; rfl⟩

/-- By the recursion of `scan`, which takes a directive with the rest of its line, or else one
line. -/
lemma exists_cut (text : Text) :
    ∃ passages, Cut (text.splitOn '\n') passages ∧
      scan text = passages.flatMap Passage.followed := by
  have silent (text : Text) (none : match? text = none) (s : Spelling) :
      ¬ s.text <+: Text.join "\n" (text.splitOn '\n') := by
    rw [show Text.join "\n" (text.splitOn '\n') = text from List.intercalate_splitOn '\n']
    rintro ⟨rest, rfl⟩
    simp [match?_eq_some_iff.2 ⟨s, rfl, rfl⟩] at none
  fun_induction scan text with
  | case1 => exact ⟨[.plain []], .plain (silent [] rfl) .done, rfl⟩
  | case2 text given d rest found ih =>
    obtain ⟨s, rfl, rfl⟩ := match?_eq_some_iff.1 found
    rcases nextLine_cases rest with ⟨ended, last⟩ | ⟨trail, ended, split⟩
    · refine ⟨[.directive s rest], ?_, by simp [last, scan, Passage.followed]⟩
      simpa [Passage.lines] using Cut.directive (s := s) ended .done
    · obtain ⟨passages, cut, followed⟩ := ih
      refine ⟨.directive s trail :: passages, ?_, by simp [followed, Passage.followed]⟩
      rw [split, ← List.append_assoc, List.splitOn_append_cons_self]
      exact .directive ended cut
  | case3 text given none ih =>
    rcases nextLine_cases text with ⟨ended, last⟩ | ⟨line, ended, split⟩
    · have one : text.splitOn '\n' = [text] := List.splitOn_eq_singleton ended
      refine ⟨[.plain text], ?_, by simp [last, scan, Passage.followed]⟩
      rw [one]
      exact .plain (one ▸ silent text none) .done
    · obtain ⟨passages, cut, followed⟩ := ih
      have lines : text.splitOn '\n' = line :: (nextLine text).splitOn '\n' := by
        rw [split, List.splitOn_append_cons_self_of_not_mem ended, ← split]
      refine ⟨.plain line :: passages, ?_, by simp [followed, Passage.followed]⟩
      rw [lines]
      exact .plain (lines ▸ silent text none) cut

/-! ## Lines that are blanked -/

/-- `exists_spelling_of_isDirectiveLine`, turned round: a `Passage.plain` loses no line. -/
lemma isDirectiveLine_of_silent {below : List Text}
    (silent : ∀ s : Spelling, ¬ s.text <+: Text.join "\n" (line :: below)) :
    isDirectiveLine line = false := by
  refine Bool.eq_false_iff.2 fun alone => ?_
  obtain ⟨s, trail, rfl⟩ := exists_spelling_of_isDirectiveLine alone
  refine silent s ?_
  cases below with
  | nil => simp [Text.join]
  | cons next below =>
    rw [Text.join, List.intercalate_cons_cons, List.append_assoc, List.append_assoc]
    exact List.prefix_append _ _

lemma Spelling.lines_eq (s : Spelling) (ended : '\n' ∉ trail) (oneLine : '\n' ∉ s.text) :
    (s.text ++ trail).splitOn '\n' = [s.text ++ trail] :=
  List.splitOn_eq_singleton (by simp [ended, oneLine])

/-- `Alone` asks for one line, which is given here, and for what `isDirectiveLine_text_append`
says. -/
lemma Spelling.alone_iff {s : Spelling} (oneLine : '\n' ∉ s.text) :
    s.Alone trail ↔ isDirectiveLine (s.text ++ trail) = true :=
  (and_iff_right oneLine).trans (isDirectiveLine_text_append s trail).symm

lemma Cut.exists_bodies (cut : Cut lines passages) :
    ∃ bodies, List.Forall₂ Passage.Stripped passages bodies ∧
      (lines.map fun line => if isDirectiveLine line then [] else line) = bodies.flatten := by
  induction cut with
  | done => exact ⟨[], .nil, rfl⟩
  | @plain line below passages silent rest ih =>
    obtain ⟨bodies, stripped, same⟩ := ih
    refine ⟨[line] :: bodies, .cons (.plain line) stripped, ?_⟩
    simp [isDirectiveLine_of_silent silent, same]
  | @directive s trail below passages ended rest ih =>
    obtain ⟨bodies, stripped, same⟩ := ih
    refine ⟨_ :: bodies, .cons ?_ stripped, by rw [List.map_append, same]; rfl⟩
    by_cases lineEnd : '\n' ∈ s.text
    · refine .several lineEnd ?_
      refine List.forall₂_map_right_iff.2 (List.forall₂_same.2 ?_)
      intro line mem
      split <;> simp
    · rw [Passage.lines, s.lines_eq ended lineEnd, List.map_singleton]
      split
      · exact .blanked ((Spelling.alone_iff lineEnd).2 ‹_›)
      · exact .kept lineEnd fun alone => ‹¬ _› ((Spelling.alone_iff lineEnd).1 alone)

/-- The directives on the lines that are blanked. -/
def onBlanked (lines : List Text) : List Directive :=
  (lines.filter isDirectiveLine).flatMap scan

lemma onBlanked_append (lines below : List Text) :
    onBlanked (lines ++ below) = onBlanked lines ++ onBlanked below := by
  simp [onBlanked]

/-- `scan` goes on behind the line end, so that a second directive on the same line is not
followed. -/
lemma scan_line {s : Spelling} (oneLine : '\n' ∉ trail) :
    scan (s.text ++ trail) = [s.directive] := by
  have found : match? (s.text ++ trail) = some (s.directive, trail) :=
    match?_eq_some_iff.2 ⟨s, rfl, rfl⟩
  have last : nextLine trail = [] := by
    rcases nextLine_cases trail with ⟨-, last⟩ | ⟨line, -, split⟩
    · exact last
    · exact absurd (split ▸ by simp) oneLine
  have given : s.text ++ trail ≠ [] := by simp [Spelling.text]
  rw [scan, if_neg given]
  split
  · rename_i d rest same
    obtain ⟨rfl, rfl⟩ := Prod.mk.inj (Option.some.inj (found.symm.trans same))
    rw [last, scan, if_pos rfl]
  · rename_i none
    simp [found] at none

/-- `strip` looks at single lines and sees of a directive over several lines only the last one,
which may spell another directive (`directive_ne`). -/
lemma onBlanked_several {s : Spelling} (ended : '\n' ∉ trail) (lineEnd : '\n' ∈ s.text) :
    onBlanked (Passage.directive s trail).lines = [] ∨
      ∃ d ≠ s.directive, onBlanked (Passage.directive s trail).lines = [d] := by
  obtain ⟨above, last, fresh, split⟩ :
      ∃ above last, '\n' ∉ last ∧ s.opening = above ++ '\n' :: last := by
    have opened : '\n' ∈ s.opening.reverse := by simpa [Spelling.text] using lineEnd
    obtain ⟨last, above, turned, fresh⟩ := List.eq_append_cons_of_mem opened
    exact ⟨above.reverse, last.reverse, by simpa using fresh,
      List.reverse_injective (by simp [turned])⟩
  have inside : ')' ∉ above ∧ ')' ∉ last := by simpa [split] using s.not_mem_opening
  have closes (t : Spelling) (rest : Text) : ')' ∈ t.text ++ rest := by simp [Spelling.text]
  have lines : (Passage.directive s trail).lines =
      above.splitOn '\n' ++ [last ++ ')' :: trail] := by
    have one : (last ++ ')' :: trail).splitOn '\n' = [last ++ ')' :: trail] :=
      List.splitOn_eq_singleton (by simp [fresh, ended])
    rw [Passage.lines, Spelling.text, split, ← one, ← List.splitOn_append_cons_self]
    simp
  have none : (above.splitOn '\n').filter isDirectiveLine = [] := by
    refine List.filter_eq_nil_iff.2 fun line listed alone => ?_
    obtain ⟨t, rest, rfl⟩ := exists_spelling_of_isDirectiveLine alone
    exact inside.1 (Text.mem_of_mem_splitOnP listed (closes t rest)).1
  rw [lines, onBlanked_append, onBlanked, none, List.flatMap_nil, List.nil_append]
  by_cases alone : isDirectiveLine (last ++ ')' :: trail) = true
  · obtain ⟨t, rest, whole⟩ := exists_spelling_of_isDirectiveLine alone
    have before {text : Text} (rest : Text) (fresh : ')' ∉ text) :
        (text ++ ')' :: rest).takeWhile (· != ')') = text := by
      rw [List.takeWhile_append_of_pos fun c mem => bne_iff_ne.2 (ne_of_mem_of_not_mem mem fresh)]
      simp
    obtain rfl : last = t.opening := by
      rw [← before trail inside.2, whole, Spelling.text, List.append_assoc, List.singleton_append,
        before rest t.not_mem_opening]
    refine .inr ⟨t.directive, Spelling.directive_ne split, ?_⟩
    have found : scan (t.text ++ trail) = [t.directive] := scan_line ended
    rw [Spelling.text, List.append_assoc, List.singleton_append] at found
    simp [onBlanked, alone, found]
  · simp [onBlanked, alone]

/-- The two cases, a directive on one line (`Spelling.alone_iff`, `scan_line`) and one on several
(`onBlanked_several`), under one bound. -/
lemma onBlanked_directive (s : Spelling) (ended : '\n' ∉ trail) :
    (onBlanked (Passage.directive s trail).lines).length ≤ 1 ∧
      (onBlanked (Passage.directive s trail).lines = [s.directive] ↔ s.Alone trail) := by
  by_cases lineEnd : '\n' ∈ s.text
  · have joined : ¬ s.Alone trail := fun alone => alone.1 lineEnd
    rcases onBlanked_several ended lineEnd with found | ⟨d, other, found⟩
    · simp [found, joined]
    · simp [found, joined, other]
  · rw [Passage.lines, s.lines_eq ended lineEnd, Spelling.alone_iff lineEnd]
    by_cases alone : isDirectiveLine (s.text ++ trail) = true
    · simp [onBlanked, alone, scan_line ended]
    · simp [onBlanked, alone]

/-- The lists are compared passage by passage.  This works because `onBlanked_directive` bounds what
a passage adds to the second list by what it adds to the first, so that equal sums force equal
parts. -/
lemma Cut.agrees_iff (cut : Cut lines passages) :
    (onBlanked lines).length ≤ (passages.flatMap Passage.followed).length ∧
      (passages.flatMap Passage.followed = onBlanked lines ↔
        ∀ s trail, .directive s trail ∈ passages → s.Alone trail) := by
  induction cut with
  | done => simp [onBlanked]
  | @plain line below passages silent rest ih =>
    simpa [onBlanked, isDirectiveLine_of_silent silent, Passage.followed] using ih
  | @directive s trail below passages ended rest ih =>
    obtain ⟨short, agrees⟩ := ih
    obtain ⟨few, own⟩ := onBlanked_directive s ended
    rw [onBlanked_append, List.flatMap_cons,
      show (Passage.directive s trail).followed = [s.directive] from rfl, List.singleton_append]
    cases here : onBlanked (Passage.directive s trail).lines with
    | nil =>
      have joined : ¬ s.Alone trail := by simpa [here] using own
      refine ⟨Nat.le_succ_of_le short, iff_of_false (fun same => ?_) fun all =>
        joined (all s trail List.mem_cons_self)⟩
      rw [List.nil_append] at same
      rw [← same] at short
      exact absurd short (by simp)
    | cons d others =>
      obtain rfl : others = [] := by simpa [here] using few
      have own : s.directive = d ↔ s.Alone trail := by simpa [here, eq_comm] using own
      refine ⟨Nat.succ_le_succ short, ?_⟩
      simp [own, agrees, or_imp, forall_and]

/-- A file is cut into passages (`Cut`).  The directives of the passages are followed, in their
order; a directive on one line is blanked if it stands there `Alone` and kept with the rest of its
line otherwise, and lines where no directive begins are kept (`Passage.Stripped`).  `scan` and
`strip` find the same directives exactly if every directive stands alone on a line. -/
theorem scan_cut (content : Text) :
    ∃ passages bodies, Cut (content.splitOn '\n') passages ∧
      scan content = passages.flatMap Passage.followed ∧
      List.Forall₂ Passage.Stripped passages bodies ∧
      strip content = Text.join "\n" bodies.flatten ∧
      (scan content = onBlanked (content.splitOn '\n') ↔
        ∀ s trail, .directive s trail ∈ passages → s.Alone trail) := by
  obtain ⟨passages, cut, followed⟩ := exists_cut content
  obtain ⟨bodies, stripped, same⟩ := cut.exists_bodies
  refine ⟨passages, bodies, cut, followed, stripped, by rw [strip, same], ?_⟩
  rw [followed]
  exact cut.agrees_iff.2

/-- A directive with a comment behind it is followed by `scan` and kept by `strip`. -/
theorem scan_cut_comment :
    let content : Text := "IMPORT (a) // theme"
    scan content = [⟨.sibling, "a"⟩] ∧ onBlanked (content.splitOn '\n') = [] ∧
      strip content = content := by
  decide +kernel

end Directive

end UtilityCss
