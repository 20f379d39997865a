import UtilityCss.Text.Basic

/-!
# Terminal control sequences

A terminal takes an escape character and an opening bracket, then parameters, then a letter, as an
order and not as text.  `Text.withoutControls` removes these sequences from a text that goes
elsewhere.  It reads the text once: what stands together only because a sequence between was removed
is not looked at again.
-/

namespace UtilityCss.Text

/-- A character of the parameters of a control sequence. -/
def isControlParameter (c : Char) : Bool := c.isDigit || c == ';' || c == '?'

/-- The text after the control sequence at its start, or nothing if there is none. -/
def afterControl? : Text → Option Text
  | '\x1b' :: '[' :: text =>
    match text.dropWhile isControlParameter with
    | c :: rest => if c.isAlpha then some rest else none
    | [] => none
  | _ => none

theorem afterControl?_length_lt {text rest : Text} (h : afterControl? text = some rest) :
    rest.length < text.length := by
  unfold afterControl? at h
  split at h
  · rename_i text
    have bound := length_dropWhile_le isControlParameter text
    split at h
    · rename_i dropped
      rw [dropped] at bound
      split at h
      · simp only [Option.some.injEq] at h
        simp only [List.length_cons] at bound ⊢
        rw [← h]
        omega
      · simp at h
    · simp at h
  · simp at h

/-- The text without its control sequences. -/
def withoutControls : Text → Text
  | [] => []
  | c :: rest =>
    match _found : afterControl? (c :: rest) with
    | some tail => withoutControls tail
    | none => c :: withoutControls rest
termination_by text => text.length
decreasing_by
  · exact afterControl?_length_lt _found
  · simp

end UtilityCss.Text
