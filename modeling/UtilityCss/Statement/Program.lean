import UtilityCss.Record.Tidy
import UtilityCss.Statement.Addition
import UtilityCss.Statement.Assignment
import UtilityCss.Statement.Line

/-!
# Programs

A program is a list of tokens.  Each of its lines is interpreted against the store that the lines
before it left (`Statement.interpret`); a line has an `Effect`, the records that it adds and the
definition that it makes, or it is refused, and then it changes nothing and no later line is read.

`Program.run` interprets the lines in order and `Program.parse` tidies the records of the whole
program.  Both return the store as well, also after a refusal.
-/

namespace UtilityCss

/-- What a line does: the records that it adds and the variable that it defines. -/
structure Effect where
  records : List Record
  assignment : Option Assignment
deriving DecidableEq, Repr

/-- The store after a line. -/
def Effect.store (effect : Effect) (store : Store) : Store :=
  match effect.assignment with
  | none => store
  | some assignment => assignment.apply store

namespace Statement

/-- The keyword that a token is. -/
def keyword? : Token → Option Text
  | .keyword name => some name
  | _ => none

/-- The record of a comment that is copied into the style sheet. -/
def comment? : Token → Option Record
  | .comment .shown text => some (.comment text)
  | _ => none

/-- The character of a token without meaning. -/
def unknown? : Token → Option Text
  | .symbol .unknown char => some char
  | _ => none

/-- Refuses a character without meaning in a statement with the given keyword. -/
def refuseUnknown (keyword : Text) (line : List Token) : Except StatementFault Unit :=
  match line.findSome? unknown? with
  | some char => .error (.unexpectedCharacter char keyword)
  | none => .ok ()

/-- The single keyword of a line. -/
def keyword (line : List Token) : Except StatementFault Text :=
  match line.filterMap keyword? with
  | [] => .error .noKeyword
  | [name] => .ok name
  | _ => .error .manyKeywords

/-- What a line that adds rules says. -/
def addition (store : Store) (line : List Token) : Except StatementFault Addition := do
  refuseUnknown "ADD" line
  Addition.read store line

/-- What a line that defines a variable says. -/
def assignment (store : Store) (line : List Token) : Except StatementFault Assignment := do
  refuseUnknown "VAR" line
  Assignment.read store line

/-- The effect of a line with a keyword.  The comments of the line come before its rules. -/
def effect (store : Store) (line : List Token) : Except StatementFault Effect := do
  let comments := line.filterMap comment?
  let name ← keyword line
  if name = "ADD" then
    let declarations ← (← addition store line).declarations store
    .ok ⟨comments ++ declarations.map .rule, none⟩
  else if name = "VAR" then
    .ok ⟨comments, some (← assignment store line)⟩
  else if name = "IMPORT" ∨ name = "TEMPLATE" then .ok ⟨comments, none⟩
  else .error (.invalidKeyword name)

/-- The effect of a line.  A line that begins with a private comment is a comment as a whole. -/
def interpret (store : Store) : List Token → Except StatementFault Effect
  | .layer name edge :: _ => .ok ⟨[.layer name edge], none⟩
  | .comment .hidden _ :: _ => .ok ⟨[], none⟩
  | [.comment .shown text] => .ok ⟨[.comment text], none⟩
  | line => effect store line

end Statement

namespace Program

/-- Interprets lines in order.  The store is that of the lines before the first refusal. -/
def run (store : Store) : List (List Token) → Except StatementFault (List Record) × Store
  | [] => (.ok [], store)
  | line :: lines =>
    match Statement.interpret store line with
    | .error fault => (.error fault, store)
    | .ok effect =>
      let (result, final) := run (effect.store store) lines
      (result.map (effect.records ++ ·), final)

/-- The records of a program, without repetitions and empty layers, and the store after it. -/
def parse (store : Store) (tokens : List Token) : Except StatementFault (List Record) × Store :=
  let (result, final) := run store (Line.group tokens)
  (result.map Record.tidy, final)

end Program

end UtilityCss
