import UtilityCss.Machine.Cursor
import UtilityCss.Proofs.Token.Unread

/-!
# A cursor as the text that it has not passed

A cursor that was moved from the start of a source is determined by the text behind it:
`Cursor.before source rest` is the one that has `rest` still to read, with the line and the column
that the characters before it give.  The operations on a cursor become operations on `rest`.  That
`rest` is an end of the source is what each of them needs; under this condition, `Scan.advance`
succeeds wherever a character was seen.

`Scan.Follows` compares a computation that moves a cursor with a reader of `Lexer`: both give the
same value and leave the same text, or stop at the same place for the same reason.
-/

namespace UtilityCss

variable {source rest left : Text} {cursor : Cursor} {c : Char} {α β : Type}

/-! ## The unread text -/

/-- The cursor that has `rest`, an end of the source, still to read. -/
def Cursor.before (source rest : Text) : Cursor where
  source
  offset := source.length - rest.length
  position := Position.after (source.take (source.length - rest.length))

namespace Cursor

lemma before_append (consumed rest : Text) :
    before (consumed ++ rest) rest =
      ⟨consumed ++ rest, consumed.length, Position.after consumed⟩ := by
  simp [before]

lemma start_eq_before (source : Text) : start source = before source source := by
  simp [start, before, Position.after]

lemma remaining_before (suffix : rest <:+ source) :
    (before source rest).remaining = rest.length := by
  have := suffix.length_le
  simp only [remaining, before]
  omega

lemma atEnd_before (suffix : rest <:+ source) :
    (before source rest).atEnd = rest.isEmpty := by
  obtain ⟨consumed, rfl⟩ := suffix
  rw [before_append]
  cases rest <;> simp [atEnd]

lemma peek_before (suffix : rest <:+ source) (ahead : Nat) :
    (before source rest).peek ahead = rest[ahead]? := by
  obtain ⟨consumed, rfl⟩ := suffix
  simp [before_append, peek, List.getElem?_append_right]

lemma startsWith_before (suffix : rest <:+ source) (beginning : Text) :
    (before source rest).startsWith beginning = Text.startsWith beginning rest := by
  obtain ⟨consumed, rfl⟩ := suffix
  simp [before_append, startsWith]

/-- `Cursor.since` cuts the source at two offsets; for cursors that stand before `taken ++ left` and
before `left` the piece is `taken`. -/
lemma since_before (taken : Text) (suffix : taken ++ left <:+ source) :
    (before source left).since (before source (taken ++ left)).offset = taken := by
  obtain ⟨consumed, rfl⟩ := suffix
  have later : before (consumed ++ (taken ++ left)) left =
      ⟨consumed ++ (taken ++ left), (consumed ++ taken).length, .after (consumed ++ taken)⟩ := by
    rw [← List.append_assoc, before_append]
  rw [later, before_append, since, ← List.append_assoc, List.take_left, List.drop_left]

lemma advance_before (suffix : c :: rest <:+ source) :
    (before source (c :: rest)).advance = .ok (c, before source rest) := by
  have seen : (before source (c :: rest)).peek 0 = some c := by simp [peek_before suffix]
  obtain ⟨consumed, rfl⟩ := suffix
  have moved : consumed ++ c :: rest = (consumed ++ [c]) ++ rest := by simp
  rw [advance, seen]
  simp only [before_append]
  rw [moved, before_append]
  simp [Position.after]

lemma advanceWhile_cons {condition : Cursor → Bool} (suffix : c :: rest <:+ source)
    (goesOn : condition (before source (c :: rest)) = true) :
    (before source (c :: rest)).advanceWhile condition =
      (before source rest).advanceWhile condition := by
  rw [advanceWhile, if_pos goesOn]
  split
  · rename_i stopped
    simp [advance_before suffix] at stopped
  · rename_i next moved
    rw [advance_before suffix] at moved
    rw [← (Prod.mk.inj (Except.ok.inj moved)).2]

lemma advanceWhile_stop {condition : Cursor → Bool} (stops : condition cursor = false) :
    cursor.advanceWhile condition = .ok cursor := by
  rw [advanceWhile, if_neg (by simp [stops])]

/-- The loop of `advanceWhile` stops before the first character outside of the class, where
`List.dropWhile` does; it cannot run over the end, because `Cursor.peek` gives nothing there. -/
lemma advanceWhile_before (member : Char → Bool) (suffix : rest <:+ source) :
    (before source rest).advanceWhile (fun cursor => (cursor.peek 0).any member) =
      .ok (before source (rest.dropWhile member)) := by
  induction rest with
  | nil => exact advanceWhile_stop (by simp [peek_before suffix])
  | cons c rest ih =>
    by_cases inside : member c
    · rw [advanceWhile_cons suffix (by simp [peek_before suffix, inside]),
        List.dropWhile_cons_of_pos inside]
      exact ih ((List.suffix_cons c rest).trans suffix)
    · rw [List.dropWhile_cons_of_neg inside]
      exact advanceWhile_stop (by simp [peek_before suffix, inside])

end Cursor

/-! ## Moving over the unread text -/

namespace Scan

open Cursor

variable {scan : Scan α} {next : α → Scan β} {value : α} {moved : Cursor} {halt : Halt}

lemma run_pure (value : α) : (pure value : Scan α).run cursor = .ok (value, cursor) := rfl

lemma run_get : (get : Scan Cursor).run cursor = .ok (cursor, cursor) := rfl

lemma run_bind (ran : scan.run cursor = .ok (value, moved)) :
    (scan >>= next).run cursor = (next value).run moved := by
  rw [StateT.run_bind, ran]
  rfl

lemma run_bind_of_error (stopped : scan.run cursor = .error halt) :
    (scan >>= next).run cursor = .error halt := by
  rw [StateT.run_bind, stopped]
  rfl

lemma look_before (suffix : rest <:+ source) (ahead : Nat) :
    (look ahead).run (before source rest) = .ok (rest[ahead]?, before source rest) := by
  rw [← peek_before suffix]
  rfl

lemma advance_run (suffix : c :: rest <:+ source) :
    advance.run (before source (c :: rest)) = .ok (c, before source rest) :=
  advance_before suffix

lemma passWhile_run {condition : Cursor → Bool} {taken : Text} (suffix : taken ++ left <:+ source)
    (stops : (before source (taken ++ left)).advanceWhile condition = .ok (before source left)) :
    (passWhile condition).run (before source (taken ++ left)) =
      .ok (taken, before source left) := by
  show (passWhile condition) (before source (taken ++ left)) = _
  rw [passWhile, stops]
  show Except.ok (_, _) = _
  rw [since_before taken suffix]

lemma takeWhile_before (member : Char → Bool) (suffix : rest <:+ source) :
    (takeWhile member).run (before source rest) =
      .ok (rest.takeWhile member, before source (rest.dropWhile member)) := by
  have stops := advanceWhile_before member suffix
  have whole := List.takeWhile_append_dropWhile (p := member) (l := rest)
  rw [← whole] at suffix
  have passed := passWhile_run suffix (by rwa [whole])
  rwa [whole] at passed

lemma accept_before (c : Char) (suffix : rest <:+ source) :
    (accept c).run (before source rest) =
      .ok (rest.head? = some c, before source (Text.skip c rest)) := by
  rw [accept, run_bind (look_before suffix 0)]
  cases rest with
  | nil => rfl
  | cons d rest =>
    by_cases same : d = c
    · subst same
      simp only [List.getElem?_cons_zero, List.head?_cons, if_true, Text.skip, decide_true]
      rw [run_bind (advance_run suffix)]
      rfl
    · simp only [List.getElem?_cons_zero, List.head?_cons, Option.some.injEq, same, if_false,
        Text.skip, decide_false]
      rfl

end Scan

/-! ## Following a reader -/

/-- How a run stops where a reader does, with its position in the source. -/
def Halt.ofStop (source : Text) (stop : Lexer.Stop) : Halt :=
  .ofError (.lexical
    ⟨stop.fault, Position.after (source.take (source.length - stop.rest.length))⟩)

/-- What a reader's answer means for a cursor. -/
def Cursor.resume (source : Text) : Except Lexer.Stop (α × Text) → Except Halt (α × Cursor)
  | .ok (value, rest) => .ok (value, .before source rest)
  | .error stop => .error (.ofStop source stop)

/-- From where `rest` is unread, the computation does what the reader's answer says. -/
def Scan.Follows (scan : Scan α) (source rest : Text) (read : Except Lexer.Stop (α × Text)) :
    Prop :=
  scan.run (.before source rest) = Cursor.resume source read

namespace Scan

variable {scan : Scan α} {next : α → Scan β} {read : Except Lexer.Stop (α × Text)}

lemma Follows.bind {reader : α × Text → Except Lexer.Stop (β × Text)}
    (follows : scan.Follows source rest read) (tail : Lexer.unread read <:+ source)
    (continues : ∀ value left, left <:+ source →
      (next value).Follows source left (reader (value, left))) :
    (scan >>= next).Follows source rest (read >>= reader) := by
  cases read with
  | error stop => exact run_bind_of_error follows
  | ok pair => exact (run_bind follows).trans (continues pair.1 pair.2 tail)

lemma Follows.map (follows : scan.Follows source rest read) (f : α → β) :
    (scan >>= fun value => pure (f value)).Follows source rest
      (read.map fun pair => (f pair.1, pair.2)) := by
  cases read with
  | error stop => exact run_bind_of_error follows
  | ok pair => exact run_bind follows

/-- The reader's tokens put before those read so far, the last one first. -/
def extend (prior : List Token) (read : Except Lexer.Stop (List Token × Text)) :
    Except Lexer.Stop (List Token × Text) :=
  read.map fun pair => (pair.1.reverse ++ prior, pair.2)

lemma Follows.one {scan : Scan Token} {read : Except Lexer.Stop (Token × Text)}
    (follows : scan.Follows source rest read) (prior : List Token) :
    (scan >>= fun token => pure (token :: prior)).Follows source rest
      (extend prior (Lexer.one read)) := by
  have single := follows.map (· :: prior)
  cases read with
  | error stop => exact single
  | ok pair => exact single

end Scan

end UtilityCss
