import UtilityCss.Text.Blank

/-!
# Import directives

A file names the files that it builds on in directives: a keyword at the start of a line and a path
in parentheses.  `Directive.scan` finds the directives that are followed; a path or the gap before
it may go over several lines, and after a directive the search goes on at the next line.

`Directive.strip` blanks the lines that are directives and nothing else, so that the rest of the
file keeps its line numbers.
-/

namespace UtilityCss

/-- What a directive brings in. -/
inductive DirectiveKind
  /-- A file that is found from the directory of the importing one. -/
  | sibling
  /-- A file that is found from the directory of templates. -/
  | template
deriving DecidableEq, Repr

/-- A directive and its path as it is written, trimmed. -/
structure Directive where
  kind : DirectiveKind
  path : Text
deriving DecidableEq, Repr

namespace Directive

/-- The keywords of directives. -/
def keywords : List (DirectiveKind × Text) :=
  [(.sibling, ['I', 'M', 'P', 'O', 'R', 'T']),
    (.template, ['T', 'E', 'M', 'P', 'L', 'A', 'T', 'E'])]

/-- An indentation that may stand before a directive. -/
def isIndent (c : Char) : Bool := c == ' ' || c == '\t'

/-- The keyword at the start of a line, after its indentation, and the text after it. -/
def keyword? (line : Text) : Option (DirectiveKind × Text) :=
  keywords.findSome? fun (kind, word) =>
    (Text.after? word (line.dropWhile isIndent)).map fun rest => (kind, rest)

/-- What stands in parentheses at the start of a text, and the text after it.  Something has to
stand there. -/
def parenthesized? : Text → Option (Text × Text)
  | '(' :: text =>
    let inner := text.takeWhile (· != ')')
    match text.dropWhile (· != ')') with
    | _ :: rest => if inner = [] then none else some (inner, rest)
    | [] => none
  | _ => none

/-- The directive at the start of a line, and the text after it. -/
def match? (text : Text) : Option (Directive × Text) := do
  let (kind, rest) ← keyword? text
  if rest.head?.any isBlank then
    let (path, rest) ← parenthesized? (Text.trimStart rest)
    some (⟨kind, Text.trim path⟩, rest)
  else none

/-- The text after the end of the current line. -/
def nextLine (text : Text) : Text := (text.dropWhile (· != '\n')).drop 1

theorem keyword?_length_le {line rest : Text} {kind : DirectiveKind}
    (h : keyword? line = some (kind, rest)) : rest.length ≤ line.length := by
  obtain ⟨pair, _, found⟩ := List.exists_of_findSome?_eq_some h
  obtain ⟨tail, after, same⟩ := Option.map_eq_some_iff.1 found
  have consumed := congrArg List.length (Text.after?_eq_some after)
  have bound := Text.length_dropWhile_le isIndent line
  simp only [Prod.mk.injEq] at same
  simp only [List.length_append] at consumed
  rw [← same.2]
  omega

theorem parenthesized?_length_lt {text inner rest : Text}
    (h : parenthesized? text = some (inner, rest)) : rest.length < text.length := by
  unfold parenthesized? at h
  split at h
  · rename_i text
    have bound := Text.length_dropWhile_le (· != ')') text
    simp only at h
    split at h
    · rename_i dropped
      split at h
      · simp at h
      · simp only [Option.some.injEq, Prod.mk.injEq] at h
        rw [dropped] at bound
        simp only [List.length_cons] at bound ⊢
        rw [← h.2]
        omega
    · simp at h
  · simp at h

theorem match?_length_lt {text rest : Text} {directive : Directive}
    (h : match? text = some (directive, rest)) : rest.length < text.length := by
  obtain ⟨⟨kind, tail⟩, keyword, h⟩ := Option.bind_eq_some_iff.1 h
  simp only at h
  split at h
  · obtain ⟨⟨path, left⟩, parenthesized, h⟩ := Option.bind_eq_some_iff.1 h
    simp only [Option.some.injEq, Prod.mk.injEq] at h
    rw [← h.2]
    exact Nat.lt_of_lt_of_le (parenthesized?_length_lt parenthesized)
      (Nat.le_trans (Text.length_dropWhile_le _ _) (keyword?_length_le keyword))
  · simp at h

theorem nextLine_length_le (text : Text) : (nextLine text).length ≤ text.length - 1 := by
  cases text with
  | nil => simp [nextLine]
  | cons c text =>
    have bound := Text.length_dropWhile_le (· != '\n') text
    by_cases h : c = '\n'
    · simp [nextLine, h]
    · simp [nextLine, h]
      omega

/-- The directives of a text that begins with a line, in order. -/
def scan (text : Text) : List Directive :=
  if text = [] then []
  else
    match _found : match? text with
    | some (directive, rest) => directive :: scan (nextLine rest)
    | none => scan (nextLine text)
termination_by text.length
decreasing_by
  · have := match?_length_lt _found
    have := nextLine_length_le rest
    omega
  · have := nextLine_length_le text
    have := List.length_pos_iff.2 ‹text ≠ []›
    omega

/-- Is the line a directive and nothing else? -/
def isDirectiveLine (line : Text) : Bool :=
  match keyword? line with
  | none => false
  | some (_, rest) =>
    rest.head?.any isIndent &&
      match parenthesized? (rest.dropWhile isIndent) with
      | some (_, rest) => rest.all isIndent
      | none => false

/-- The text with an empty line in the place of each line that is a directive. -/
def strip (text : Text) : Text :=
  Text.join "\n" ((text.splitOn '\n').map fun line => if isDirectiveLine line then [] else line)

end Directive

end UtilityCss
