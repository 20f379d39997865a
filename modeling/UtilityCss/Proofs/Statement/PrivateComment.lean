import UtilityCss.Proofs.Statement.Atomicity
import UtilityCss.Proofs.Token.Lines

/-!
# A private comment at the end of a line

A private comment adds nothing to the line that it ends.  No part of a statement is made of it, and
it is no unit for a value before it, so the line is interpreted as it is without the comment
(`Statement.interpret_comment`); on a line of its own it does nothing.  So a program may be given
private comments at the ends of its lines (`Program.run_comment`).

The one line that needs care is a public comment on its own, which is no statement: with anything
else on the line it would have to be one.
-/

namespace UtilityCss

variable {store : Store} {line tokens : List Token} {content : Text}

/-! ## Values -/

/-- `step` looks ahead by one token, for a unit, and a comment is none; so it does not matter
whether the look ahead meets the comment or the end of the line. -/
lemma head?_append_comment {α : Type} (view : Option Token → α)
    (same : ∀ content, view (some (.comment .hidden content)) = view none) (tokens : List Token)
    (content : Text) :
    view (tokens ++ [Token.comment .hidden content]).head? = view tokens.head? := by
  cases tokens with
  | nil => exact same content
  | cons token tokens => rfl

lemma Gathered.step_following (gathered : Gathered) (previous : Option Token) (token : Token)
    (content : Text) :
    gathered.step store previous token (some (.comment .hidden content)) =
      gathered.step store previous token none := by
  cases token with
  | symbol kind char => cases kind <;> rfl
  | _ => rfl

lemma Gathered.gather_comment (gathered : Gathered) (previous : Option Token)
    (tokens : List Token) (content : Text) :
    gathered.gather store previous (tokens ++ [.comment .hidden content]) =
      gathered.gather store previous tokens := by
  induction tokens generalizing gathered previous with
  | nil => rfl
  | cons token tokens ih =>
    rw [List.cons_append, gather, gather, head?_append_comment (gathered.step store previous token)
      (gathered.step_following previous token)]
    exact bind_congr fun next => ih next (some token)

lemma filterMap_comment {α : Type} (view : Token → Option α)
    (unseen : view (.comment .hidden content) = none) :
    (line ++ [Token.comment .hidden content]).filterMap view = line.filterMap view := by
  simp [unseen]

lemma Addition.read_comment (store : Store) (line : List Token) (content : Text) :
    Addition.read store (line ++ [.comment .hidden content]) = Addition.read store line := by
  unfold Addition.read singleProperty
  simp only [Gathered.gather_comment, filterMap_comment property? rfl,
    filterMap_comment pseudoClass? rfl, filterMap_comment identifier? rfl,
    filterMap_comment MediaWidth.ofToken? rfl]

/-! ## Definitions -/

lemma Assignment.step_following (slots : List Slot) (token : Token) (content : Text) :
    Assignment.step store slots token (some (.comment .hidden content)) =
      Assignment.step store slots token none := by
  cases token with
  | symbol kind char => cases kind <;> rfl
  | _ => rfl

lemma Assignment.slotsFrom_comment (slots : List Slot) (tokens : List Token) (content : Text) :
    slotsFrom store slots (tokens ++ [.comment .hidden content]) =
      slotsFrom store slots tokens := by
  induction tokens generalizing slots with
  | nil => rfl
  | cons token tokens ih =>
    rw [List.cons_append, slotsFrom, slotsFrom,
      head?_append_comment (Assignment.step store slots token) (step_following slots token)]
    exact bind_congr fun next => ih next

/-- `split` finds the value behind the equals sign or behind the first name.  Where it finds
neither, the comment is passed over too, hence the two cases. -/
lemma Assignment.split_comment (line : List Token) (content : Text) :
    (split (line ++ [.comment .hidden content])).1 = (split line).1 ∧
      ((split (line ++ [.comment .hidden content])).2 = (split line).2 ∨
        (split (line ++ [.comment .hidden content])).2 =
          (split line).2 ++ [.comment .hidden content]) := by
  unfold split
  cases marked : line.dropWhile (!isEquals ·) with
  | cons mark value =>
    have stops : line.dropWhile (!isEquals ·) ≠ [] := by simp [marked]
    rw [Text.dropWhile_append_of_ne_nil stops, Text.takeWhile_append_of_ne_nil stops, marked]
    exact ⟨rfl, .inr rfl⟩
  | nil =>
    have unmarked : (line ++ [Token.comment .hidden content]).dropWhile (!isEquals ·) = [] := by
      rw [List.dropWhile_append, marked]
      rfl
    rw [unmarked]
    cases named : line.dropWhile fun token => (name? token).isNone with
    | cons head value =>
      rw [Text.dropWhile_append_of_ne_nil (by simp [named]), named]
      exact ⟨rfl, .inr rfl⟩
    | nil =>
      rw [List.dropWhile_append, named]
      exact ⟨rfl, .inl rfl⟩

lemma Assignment.read_comment (store : Store) (line : List Token) (content : Text) :
    Assignment.read store (line ++ [.comment .hidden content]) = Assignment.read store line := by
  obtain ⟨names, value | value⟩ := split_comment line content
  · unfold Assignment.read
    simp only [names, value]
  · unfold Assignment.read
    simp only [names, value, slotsFrom_comment]

/-! ## Lines -/

namespace Statement

lemma refuseUnknown_comment (keyword : Text) (line : List Token) (content : Text) :
    refuseUnknown keyword (line ++ [.comment .hidden content]) = refuseUnknown keyword line := by
  have same : (line ++ [Token.comment .hidden content]).findSome? unknown? =
      line.findSome? unknown? := by
    simp [List.findSome?_append, unknown?]
  rw [refuseUnknown, refuseUnknown, same]

lemma effect_comment (store : Store) (line : List Token) (content : Text) :
    effect store (line ++ [.comment .hidden content]) = effect store line := by
  unfold effect keyword addition assignment
  simp only [filterMap_comment comment? rfl, filterMap_comment keyword? rfl, refuseUnknown_comment,
    Addition.read_comment, Assignment.read_comment]

/-- All parts of a statement are collected by a view of its tokens, and none of the views sees a
private comment (`effect_comment`).  A public comment on its own is copied, but with anything behind
it `interpret` asks for a keyword. -/
theorem interpret_comment (given : line ≠ []) (noRemark : ∀ text, line ≠ [.comment .shown text])
    (store : Store) (content : Text) :
    interpret store (line ++ [.comment .hidden content]) = interpret store line := by
  cases line with
  | nil => exact absurd rfl given
  | cons token rest =>
    cases token with
    | layer name edge => rfl
    | comment visibility text =>
      cases visibility with
      | hidden => rfl
      | shown =>
        cases rest with
        | nil => exact absurd rfl (noRemark text)
        | cons next rest => exact effect_comment store (_ :: next :: rest) content
    | _ => exact effect_comment store (_ :: rest) content

/-- `effect_cases` leaves four keywords, and this is none of them; only a line that begins with a
comment or a marker is not asked for its keyword. -/
lemma noLayerKeyword_of_interpret {effect : Effect}
    (interpreted : interpret store line = .ok effect) (inline : ∀ token ∈ line, token.inline = true)
    (noComment : ∀ visibility content, .comment visibility content ∉ line) :
    .keyword "LAYER" ∉ line := by
  intro mem
  have known : "LAYER".toList ∈ line.filterMap keyword? := List.mem_filterMap.2 ⟨_, mem, rfl⟩
  have only {name : Text} (single : keyword line = .ok name) : name = "LAYER" := by
    rw [keyword_eq_ok single] at known
    exact (List.mem_singleton.1 known).symm
  unfold interpret at interpreted
  split at interpreted
  · exact absurd (inline _ List.mem_cons_self) (by simp [Token.inline])
  · exact absurd List.mem_cons_self (noComment _ _)
  · exact absurd List.mem_cons_self (noComment _ _)
  · rcases effect_cases interpreted with
      ⟨_, _, single, -⟩ | ⟨_, single, -⟩ | ⟨name, single, rfl | rfl, -⟩
    all_goals exact absurd (only single) (by decide)

end Statement

namespace Line

variable {current : List Token} {token : Token}

/-- A comment is inline, so it goes to the line that is being gathered; there is none behind a line
end, behind a marker and at the start. -/
lemma groupFrom_comment (current tokens : List Token) (content : Text) :
    groupFrom current (tokens ++ [.comment .hidden content]) =
        groupFrom current tokens ++ [[.comment .hidden content]] ∨
      ∃ before line, line ≠ [] ∧ groupFrom current tokens = before ++ [line] ∧
        groupFrom current (tokens ++ [.comment .hidden content]) =
          before ++ [line ++ [.comment .hidden content]] := by
  fun_induction groupFrom current tokens with
  | case1 current =>
    by_cases empty : current = []
    · subst empty
      exact .inl rfl
    · refine .inr ⟨[], current.reverse, by simpa using empty, by simp [flush, empty], ?_⟩
      simp [groupFrom, flush]
  | case2 current char tokens ih =>
    rw [List.cons_append, groupFrom]
    rcases ih with alone | ⟨before, line, given, lines, longer⟩
    · exact .inl (by rw [alone, List.append_assoc])
    · exact .inr ⟨flush current ++ before, line, given, by simp [lines], by simp [longer]⟩
  | case3 current name edge tokens ih =>
    rw [List.cons_append, groupFrom]
    rcases ih with alone | ⟨before, line, given, lines, longer⟩
    · exact .inl (by rw [alone, List.append_assoc, List.cons_append])
    · exact .inr ⟨flush current ++ [.layer name edge] :: before, line, given, by simp [lines],
        by simp [longer]⟩
  | case4 current token tokens notNewline notLayer ih =>
    rw [List.cons_append, groupFrom]
    · exact ih
    · exact notNewline
    · exact notLayer

/-- `groupFrom` flushes before a marker and starts anew behind it, and line ends are dropped. -/
lemma inline_of_mem_groupFrom (inside : ∀ token ∈ current, token.inline = true)
    (grouped : line ∈ groupFrom current tokens) :
    (∃ name edge, line = [.layer name edge]) ∨ ∀ token ∈ line, token.inline = true := by
  have flushed {current : List Token} (inside : ∀ token ∈ current, token.inline = true)
      (last : line ∈ flush current) : ∀ token ∈ line, token.inline = true := by
    unfold flush at last
    split at last
    · simp at last
    · obtain rfl := List.mem_singleton.1 last
      simpa using inside
  fun_induction groupFrom current tokens with
  | case1 current => exact .inr (flushed inside grouped)
  | case2 current char tokens ih =>
    rcases List.mem_append.1 grouped with last | later
    · exact .inr (flushed inside last)
    · exact ih (by simp) later
  | case3 current name edge tokens ih =>
    rcases List.mem_append.1 grouped with last | later
    · exact .inr (flushed inside last)
    · rcases List.mem_cons.1 later with rfl | later
      · exact .inl ⟨name, edge, rfl⟩
      · exact ih (by simp) later
  | case4 current token tokens notNewline notLayer ih =>
    exact ih (List.forall_mem_cons.2 ⟨Token.inline_of_ne notNewline notLayer, inside⟩) grouped

/-- With `mem_of_mem_groupFrom` in the other direction: grouping loses line ends and nothing
else. -/
lemma exists_mem_groupFrom (inline : token.inline = true)
    (mem : token ∈ current ∨ token ∈ tokens) : ∃ line ∈ groupFrom current tokens, token ∈ line := by
  have flushed {current : List Token} (mem : token ∈ current) :
      ∃ line ∈ flush current, token ∈ line :=
    ⟨current.reverse, by simp [flush, List.ne_nil_of_mem mem], List.mem_reverse.2 mem⟩
  fun_induction groupFrom current tokens with
  | case1 current => exact flushed (mem.resolve_right (by simp))
  | case2 current char tokens ih =>
    rcases mem with mem | mem
    · obtain ⟨line, last, mem⟩ := flushed mem
      exact ⟨line, List.mem_append_left _ last, mem⟩
    · rcases List.mem_cons.1 mem with rfl | mem
      · simp [Token.inline] at inline
      · obtain ⟨line, later, mem⟩ := ih (.inr mem)
        exact ⟨line, List.mem_append_right _ later, mem⟩
  | case3 current name edge tokens ih =>
    rcases mem with mem | mem
    · obtain ⟨line, last, mem⟩ := flushed mem
      exact ⟨line, List.mem_append_left _ last, mem⟩
    · rcases List.mem_cons.1 mem with rfl | mem
      · simp [Token.inline] at inline
      · obtain ⟨line, later, mem⟩ := ih (.inr mem)
        exact ⟨line, List.mem_append_right _ (List.mem_cons_of_mem _ later), mem⟩
  | case4 current next tokens notNewline notLayer ih =>
    refine ih ?_
    rcases mem with mem | mem
    · exact .inl (List.mem_cons_of_mem _ mem)
    · rcases List.mem_cons.1 mem with rfl | mem
      · exact .inl List.mem_cons_self
      · exact .inr mem

end Line

/-! ## Programs -/

namespace Program

variable {records : List Record} {final : Store} {upper lower : List (List Token)}

/-- `run` sees a line only through `Statement.interpret`; `same` is asked for every store, as the
lines above are not known to be accepted. -/
lemma run_replace {other : List Token}
    (same : ∀ store, Statement.interpret store other = Statement.interpret store line)
    (store : Store) (upper lower : List (List Token)) :
    run store (upper ++ other :: lower) = run store (upper ++ line :: lower) := by
  induction upper generalizing store with
  | nil => rw [List.nil_append, List.nil_append, run, run, same]
  | cons first upper ih => simp only [List.cons_append, run, ih]

/-- The counterpart of `run_replace` for a line that is left out, which is the case where the
comment is on a line of its own. -/
lemma run_idle (idle : ∀ store, Statement.interpret store line = .ok ⟨[], none⟩) (store : Store)
    (upper lower : List (List Token)) :
    run store (upper ++ line :: lower) = run store (upper ++ lower) := by
  induction upper generalizing store with
  | nil =>
    have unchanged (result : Except StatementFault (List Record)) :
        result.map ([] ++ ·) = result := by
      cases result <;> rfl
    rw [List.nil_append, List.nil_append, run_cons_of_ok (idle store), unchanged]
    rfl
  | cons first upper ih => simp only [List.cons_append, run, ih]

/-- `Line.groupFrom_comment` gives the two places for the comment: `run_idle` deals with the one on
its own line, `run_replace` with the other (`Statement.interpret_comment`). -/
theorem run_comment (noRemark : ∀ text, .comment .shown text ∉ tokens) (store : Store)
    (upper lower : List (List Token)) (content : Text) :
    run store (upper ++ Line.group (tokens ++ [.comment .hidden content]) ++ lower) =
      run store (upper ++ Line.group tokens ++ lower) := by
  rcases Line.groupFrom_comment [] tokens content with alone | ⟨before, line, given, lines, longer⟩
  · rw [Line.group, alone, ← List.append_assoc, List.append_assoc _ [_], List.singleton_append]
    exact run_idle (fun _ => rfl) store _ lower
  · have noRemark (text : Text) : line ≠ [.comment .shown text] := by
      rintro rfl
      have grouped : [.comment .shown text] ∈ Line.groupFrom [] tokens := by simp [lines]
      rcases Line.mem_of_mem_groupFrom grouped List.mem_cons_self with absent | mem
      · simp at absent
      · exact noRemark text mem
    rw [Line.group, Line.group, lines, longer, ← List.append_assoc, ← List.append_assoc,
      List.append_assoc _ [_], List.append_assoc _ [_], List.singleton_append,
      List.singleton_append]
    exact run_replace (fun store => Statement.interpret_comment given noRemark store content) store
      _ lower

/-- From `executed_run`: a run that ends well has nothing pending, and `Executed.accepted` names the
store for each line. -/
lemma exists_interpret_of_run {lines : List (List Token)}
    (ran : run store lines = (.ok records, final)) (mem : line ∈ lines) :
    ∃ between effect, Statement.interpret between line = .ok effect := by
  obtain ⟨executed, pending, rfl, h⟩ := executed_run store lines
  rw [ran] at h
  rcases h.stopped with ⟨rfl, -⟩ | ⟨_, _, _, -, failed, -⟩
  · rw [List.append_nil] at mem
    obtain ⟨before, after, cut⟩ := List.append_of_mem mem
    obtain ⟨⟨effect, interpreted⟩, -⟩ := h.accepted before line after cut
    exact ⟨_, effect, interpreted⟩
  · simp at failed

/-- `Statement.noLayerKeyword_of_interpret` for the line that the token is on
(`Line.exists_mem_groupFrom`), which was accepted by some store (`exists_interpret_of_run`). -/
lemma noLayerKeyword_of_run
    (ran : run store (upper ++ Line.group tokens ++ lower) = (.ok records, final))
    (noComment : ∀ visibility content, .comment visibility content ∉ tokens) :
    .keyword "LAYER" ∉ tokens := by
  intro mem
  obtain ⟨line, grouped, inside⟩ : ∃ line ∈ Line.groupFrom [] tokens, .keyword "LAYER" ∈ line :=
    Line.exists_mem_groupFrom rfl (.inr mem)
  have among : line ∈ upper ++ Line.group tokens ++ lower :=
    List.mem_append_left _ (List.mem_append_right _ grouped)
  obtain ⟨between, effect, interpreted⟩ := exists_interpret_of_run ran among
  rcases Line.inline_of_mem_groupFrom (by simp) grouped with ⟨name, edge, rfl⟩ | inline
  · simp at inside
  · refine Statement.noLayerKeyword_of_interpret interpreted inline ?_ inside
    intro visibility content comment
    rcases Line.mem_of_mem_groupFrom grouped comment with absent | mem
    · simp at absent
    · exact noComment visibility content mem

end Program

end UtilityCss
