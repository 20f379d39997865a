import UtilityCss.Proofs.Machine.Interpreter
import UtilityCss.Proofs.Statement.Faults
import UtilityCss.Proofs.Token.Lines

/-!
# How a compilation ends

A text is compiled unless one of four stages refuses: the options are checked, the text is read, the
program is interpreted and the style sheet is written (`Stage.Refuses`).  Each stage relies on the
ones before it.  In `Machine.compile` it does so at its own risk: a cursor can be moved beyond the
end of the text, an integer can be read from no digits, a token can be of another class than its
kind lets expect, a structural token can be built of any class and a declaration of no values, and
each of these is a crash.

None of them happens.  By `Machine.compile_eq` the machine does what `Compile.source` does, which
has no such failures to begin with, and the one crash that remains is an integer with too many
digits.  It cannot come up where all runs of digits are short (`Compile.source_ends`), so there a
text is compiled or an error is reported (`Machine.compiles_or_reports`).
-/

namespace UtilityCss

variable {options : OptionTexts} {store : Store} {text : Text}

/-- The stage refuses what the stages before it gave. -/
def Stage.Refuses (options : OptionTexts) (store : Store) (text : Text) : Stage → Prop
  | .config => ∃ fault, options.validate = .error fault
  | .lexical => ∃ error, Lexer.tokens text = .error error
  | .semantic => ∃ tokens fault, Lexer.tokens text = .ok tokens ∧
      (Program.parse store tokens).1 = .error fault
  | .render => ∃ checked tokens records fault, options.validate = .ok checked ∧
      Lexer.tokens text = .ok tokens ∧ (Program.parse store tokens).1 = .ok records ∧
      Sheet.generate checked.style records = .error fault
  | .load => False
  | .cycle => False

/-! ## Errors of the stages -/

lemma Lexer.legible_of_tokens {tokens : List Token} (bounded : text.Bounded)
    (read : Lexer.tokens text = .ok tokens) : ∀ token ∈ tokens, token.Legible := by
  have sound := tokensFrom_sound bounded (List.forall_mem_nil Token.Legible)
  rw [tokensFrom_of_tokens read] at sound
  simpa using sound

/-- `LexFault.integerTooLong` is the one lexical fault without a stage, and `Text.Bounded` rules it
out; every other comes with the position behind all that was read before. -/
lemma Lexer.reported_of_tokens {error : LexError} (bounded : text.Bounded)
    (failed : Lexer.tokens text = .error error) :
    (Error.lexical error).stage? = some .lexical ∧
      ∃ read, read <+: text ∧ (Error.lexical error).position? = some (Position.after read) := by
  obtain ⟨stop, stopped, rfl⟩ := tokens_eq_error failed
  have sound := tokensFrom_sound bounded (List.forall_mem_nil Token.Legible)
  rw [stopped] at sound
  obtain ⟨fault, rest⟩ := stop
  have place : text.take (text.length - rest.length) <+: text := List.take_prefix _ _
  cases fault with
  | integerTooLong e => exact sound.elim
  | _ => exact ⟨rfl, _, place, rfl⟩

lemma StatementFault.Reported.stage {fault : StatementFault} (reported : fault.Reported) :
    (Error.semantic fault).stage? = some .semantic := by
  cases fault with
  | integerTooLong e => exact reported.elim
  | _ => rfl

/-- `Halt.ofError` turns errors into crashes only where `Error.stage?` has none. -/
lemma Halt.ofError_of_stage {error : Error} {stage : Stage} (found : error.stage? = some stage) :
    Halt.ofError error = .reported error := by
  cases error with
  | lexical error =>
    obtain ⟨fault, position⟩ := error
    cases fault with
    | integerTooLong e => simp [Error.stage?] at found
    | _ => rfl
  | semantic fault =>
    cases fault with
    | integerTooLong e => simp [Error.stage?] at found
    | _ => rfl
  | _ => rfl

/-- What `Machine.compile_eq` carries over to the machine.  The stages are gone through in the order
in which `Compile.source` meets them, and `Stage.Refuses` is stated for each without its
predecessors' help. -/
theorem Compile.source_ends (options : OptionTexts) (store : Store) (text : Text)
    (short : ∀ run, text.DigitRun run → run.length ≤ Numeral.digitLimit) :
    (∃ compilation, (Compile.source options store text).1 = .ok compilation ∧
      ∀ stage : Stage, ¬ stage.Refuses options store text) ∨
    ∃ error stage, (Compile.source options store text).1 = .error error ∧
      error.stage? = some stage ∧ stage.Refuses options store text ∧
      (stage = .lexical →
        ∃ read, read <+: text ∧ error.position? = some (Position.after read)) := by
  have bounded := Text.bounded_of_digitRun short
  unfold Compile.source
  split
  · rename_i fault refused
    exact .inr ⟨_, .config, rfl, rfl, ⟨fault, refused⟩, by simp⟩
  rename_i checked valid
  unfold Compile.checked
  split
  · rename_i error refused
    obtain ⟨stage, place⟩ := Lexer.reported_of_tokens bounded refused
    exact .inr ⟨_, .lexical, rfl, stage, ⟨error, refused⟩, fun _ => place⟩
  rename_i tokens read
  have reports := Program.reports_parse store (Lexer.legible_of_tokens bounded read)
  split
  · rename_i fault final refused
    rw [refused] at reports
    exact .inr ⟨_, .semantic, rfl, (reports fault rfl).stage,
      ⟨tokens, fault, read, by rw [refused]⟩, by simp⟩
  rename_i records final parsed
  split
  · rename_i fault refused
    exact .inr ⟨_, .render, rfl, rfl,
      ⟨checked, tokens, records, fault, valid, read, by rw [parsed], refused⟩, by simp⟩
  · rename_i css written
    refine .inl ⟨_, rfl, fun stage => ?_⟩
    cases stage <;> simp [Stage.Refuses, valid, read, parsed, written]

namespace Machine

/-- The machine never crashes on a text without long runs of digits: by `Machine.compile_eq` its
halts are those of `Compile.source_ends`, which are all reported.  The text is compiled, if no stage
refuses, or else the error of such a stage is reported, and an error in the spelling of the text
comes with the line and the column where it was found. -/
theorem compiles_or_reports (options : OptionTexts) (store : Store) (text : Text)
    (short : ∀ run, text.DigitRun run → run.length ≤ Numeral.digitLimit) :
    (∃ compilation, (compile options store text).1 = .ok compilation ∧
      ∀ stage : Stage, ¬ stage.Refuses options store text) ∨
    ∃ error stage, (compile options store text).1 = .error (.reported error) ∧
      error.stage? = some stage ∧ stage.Refuses options store text ∧
      (stage = .lexical →
        ∃ read, read <+: text ∧ error.position? = some (Position.after read)) := by
  rw [compile_eq]
  obtain ⟨compilation, compiled, accepts⟩ | ⟨error, stage, failed, found, refuses, place⟩ :=
    Compile.source_ends options store text short
  · rw [compiled]
    exact .inl ⟨compilation, rfl, accepts⟩
  · rw [failed]
    exact .inr ⟨error, stage, congrArg Except.error (Halt.ofError_of_stage found), found, refuses,
      place⟩

/-- `0042px` has digits that `Numeral.parse` reads and letters that it does not; the pseudo-class
behind the other number is refused in the second line, behind its name. -/
theorem compiles_or_reports_unknownPseudoClass :
    let text : Text := "VAR auto=0042px\nADD 7:nope"
    let error : Error := .lexical ⟨.unknownPseudoClass "nope", ⟨2, 11⟩⟩
    text.DigitRun "0042" ∧ (∀ run, text.DigitRun run → run.length ≤ Numeral.digitLimit) ∧
      (compile {} .empty text).1 = .error (.reported error) ∧
      error.stage? = some .lexical ∧ Stage.Refuses {} .empty text .lexical ∧
      ∃ read, read <+: text ∧ error.position? = some (Position.after read) := by
  intro text error
  have digits : text.DigitRun "0042" := by
    refine ⟨List.all_eq_true.1 rfl, "VAR auto=", "px\nADD 7:nope", rfl, ?_, ?_⟩
    · rintro c ⟨⟩
      rfl
    · rintro c ⟨⟩
      rfl
  have short : ∀ run, text.DigitRun run → run.length ≤ Numeral.digitLimit :=
    fun run isRun => Nat.le_trans isRun.length_le (by decide)
  have refused : Lexer.tokensFrom [] text = .error ⟨.unknownPseudoClass "nope", []⟩ := by
    have gap (prior : List Token) (rest : Text) :
        Lexer.step prior ' ' rest = .ok ([], rest) := rfl
    have first : Lexer.step [] 'V' "AR auto=0042px\nADD 7:nope".toList =
        .ok ([.keyword "VAR"], " auto=0042px\nADD 7:nope".toList) := rfl
    have name : Lexer.step [.keyword "VAR"] 'a' "uto=0042px\nADD 7:nope".toList =
        .ok ([.variable "auto"], "=0042px\nADD 7:nope".toList) := rfl
    have value (prior : List Token) : Lexer.step prior '=' "0042px\nADD 7:nope".toList =
        .ok ([.equals, .value (.text "0042px")], "\nADD 7:nope".toList) := rfl
    have second (prior : List Token) : Lexer.step prior 'A' "DD 7:nope".toList =
        .ok ([.keyword "ADD"], " 7:nope".toList) := rfl
    have number (prior : List Token) : Lexer.step prior '7' ":nope".toList =
        .ok ([.value (.integer 7)], ":nope".toList) := rfl
    have unknown (prior : List Token) : Lexer.step prior ':' "nope".toList =
        .error ⟨.unknownPseudoClass "nope", []⟩ := rfl
    calc
      _ = _ := Lexer.tokensFrom_of_step first
      _ = _ := Lexer.tokensFrom_of_step (gap _ _)
      _ = _ := Lexer.tokensFrom_of_step name
      _ = _ := Lexer.tokensFrom_of_step (value _)
      _ = _ := Lexer.tokensFrom_newline
      _ = _ := Lexer.tokensFrom_of_step (second _)
      _ = _ := Lexer.tokensFrom_of_step (gap _ _)
      _ = _ := Lexer.tokensFrom_of_step (number _)
      _ = _ := Lexer.tokensFrom_of_step_error (unknown _)
  have read : Lexer.tokens text = .error ⟨.unknownPseudoClass "nope", ⟨2, 11⟩⟩ := by
    rw [Lexer.tokens, refused]
    rfl
  have stopped : (compile {} .empty text).1 = .error (.reported error) := by
    obtain ⟨options, valid⟩ : ∃ options, OptionTexts.validate {} = .ok options := ⟨_, rfl⟩
    rw [compile_eq, Compile.source, valid]
    dsimp only
    rw [Compile.checked, read]
    rfl
  obtain ⟨compilation, compiled, -⟩ | ⟨found, stage, reported, known, refuses, place⟩ :=
    compiles_or_reports {} .empty text short
  · exact absurd (stopped.symm.trans compiled) (by simp)
  · obtain rfl : error = found := by simpa using stopped.symm.trans reported
    obtain rfl : Stage.lexical = stage := Option.some.inj known
    exact ⟨digits, short, stopped, known, refuses, place rfl⟩

end Machine

end UtilityCss
