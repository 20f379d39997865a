import UtilityCss.Error
import UtilityCss.Record.Basic

/-!
# A cursor in a source

`Lexer.tokens` passes the unread text from reader to reader, so that no reader can go beyond its
end.  A `Cursor` is nearer to how a scanner works: the source is kept whole, and what changes is an
offset into it with the line and the column there.  Such a scanner can fail by its own mistake, and
it does so visibly: `Cursor.advance` has no result at the end of the source, and an operation that
is used where it has none ends the run with a `Crash`.  A run that stops (`Halt`) has either found
an error in the source, which it reports, or crashed.
-/

namespace UtilityCss

/-- What ends a run by a mistake of the program and not of its source. -/
inductive Crash
  /-- The cursor was moved beyond the end of the source. -/
  | beyondEnd
  /-- A text was read as an integer that has no digits, or other characters than digits. -/
  | notNumeral (text : Text)
  /-- An integer has too many digits. -/
  | integerTooLong (e : IntegerTooLong)
  /-- A word was taken for an end of a layer that names none. -/
  | notEdge (name : Text)
  /-- A structural token was built of a class that is not structural. -/
  | notStructural (e : NotStructural)
  /-- A token is not of the class that was asserted. -/
  | wrongClass (token : Token)
  /-- A line has no first token. -/
  | emptyLine
  /-- A declaration was built without values. -/
  | noValues (e : NoValues)
  /-- The scanner would stay where it is forever. -/
  | stalled
deriving DecidableEq, Repr

/-- Why a run stopped. -/
inductive Halt
  | reported (error : Error)
  | crashed (crash : Crash)
deriving DecidableEq, Repr

/-- How an error stops a run: an integer with too many digits is not reported. -/
def Halt.ofError : Error → Halt
  | .lexical ⟨.integerTooLong e, _⟩ => .crashed (.integerTooLong e)
  | .semantic (.integerTooLong e) => .crashed (.integerTooLong e)
  | error => .reported error

/-- The integer that a text spells.  It must have a digit, and at most a minus sign besides. -/
def Numeral.parse (text : Text) : Except Halt Int :=
  if Text.skip '-' text = [] ∨ ¬ (Text.skip '-' text).all isDecimalDigit then
    .error (.crashed (.notNumeral text))
  else
    match Numeral.integer text with
    | .error e => .error (.crashed (.integerTooLong e))
    | .ok value => .ok value

/-- A place in a source. -/
structure Cursor where
  source : Text
  /-- The number of characters before the cursor. -/
  offset : Nat
  /-- The line and the column of the cursor. -/
  position : Position
deriving DecidableEq, Repr

namespace Cursor

/-- The cursor at the start of a source. -/
def start (source : Text) : Cursor := ⟨source, 0, .start⟩

/-- The number of characters behind the cursor. -/
def remaining (cursor : Cursor) : Nat := cursor.source.length - cursor.offset

/-- Is the cursor at the end? -/
def atEnd (cursor : Cursor) : Bool := cursor.source.length ≤ cursor.offset

/-- The character that stands so many characters behind the cursor. -/
def peek (cursor : Cursor) (ahead : Nat) : Option Char := cursor.source[cursor.offset + ahead]?

/-- Does the source go on with the given text? -/
def startsWith (cursor : Cursor) (beginning : Text) : Bool :=
  Text.startsWith beginning (cursor.source.drop cursor.offset)

/-- The text from an earlier offset up to the cursor. -/
def since (cursor : Cursor) (start : Nat) : Text := (cursor.source.take cursor.offset).drop start

/-- Moves over one character, which must exist. -/
def advance (cursor : Cursor) : Except Halt (Char × Cursor) :=
  match cursor.peek 0 with
  | none => .error (.crashed .beyondEnd)
  | some c =>
    .ok (c, { cursor with offset := cursor.offset + 1, position := cursor.position.advance c })

theorem remaining_of_advance {cursor next : Cursor} {c : Char}
    (moved : cursor.advance = .ok (c, next)) : next.remaining < cursor.remaining := by
  unfold advance at moved
  split at moved
  · simp at moved
  · rename_i found
    obtain ⟨inside, -⟩ := List.getElem?_eq_some_iff.1 found
    simp only [Except.ok.injEq, Prod.mk.injEq] at moved
    simp only [remaining, ← moved.2]
    omega

/-- Moves as long as the cursor meets a condition. -/
def advanceWhile (condition : Cursor → Bool) (cursor : Cursor) : Except Halt Cursor :=
  if condition cursor then
    match _moved : cursor.advance with
    | .error halt => .error halt
    | .ok (_, next) => next.advanceWhile condition
  else .ok cursor
termination_by cursor.remaining
decreasing_by exact remaining_of_advance _moved

end Cursor

/-! ## Computations that move a cursor -/

/-- A computation that moves a cursor, and may stop. -/
abbrev Scan := StateT Cursor (Except Halt)

namespace Scan

/-- A computation that leaves the cursor where it is. -/
def evaluate (result : Except Halt α) : Scan α := fun cursor => result.map (·, cursor)

/-- Reports a fault at the cursor. -/
def fail (fault : LexFault) : Scan α := fun cursor =>
  .error (.reported (.lexical ⟨fault, cursor.position⟩))

/-- The character that stands so many characters behind the cursor. -/
def look (ahead : Nat) : Scan (Option Char) := fun cursor => .ok (cursor.peek ahead, cursor)

/-- Moves over one character, which must exist. -/
def advance : Scan Char := fun cursor => cursor.advance

/-- Moves as long as a condition holds, and returns the text that was passed. -/
def passWhile (condition : Cursor → Bool) : Scan Text := fun cursor =>
  (cursor.advanceWhile condition).map fun next => (next.since cursor.offset, next)

/-- The longest text of characters of a class. -/
def takeWhile (member : Char → Bool) : Scan Text :=
  passWhile fun cursor => (cursor.peek 0).any member

/-- Moves over a character if it comes next, and tells whether it did. -/
def accept (c : Char) : Scan Bool := do
  if (← look 0) = some c then
    let _ ← advance
    return true
  else return false

end Scan

end UtilityCss
