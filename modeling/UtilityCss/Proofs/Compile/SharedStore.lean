import UtilityCss.Compile
import UtilityCss.Proofs.Statement.Atomicity

/-!
# Compilations that share a store

Texts may be compiled one after the other against one store.  What a compilation leaves there
depends on how far it came (`Compile.Leaves`): nothing is defined before the text is read, a program
that is refused has made the definitions before the refusal, and from then on all of them are made.
-/

namespace UtilityCss

namespace Compile

variable {store : Store} {text : Text} {tokens : List Token}

/-- How a compilation may end, and the store that it leaves then. -/
inductive Leaves (store : Store) (text : Text) : Except Error Compilation → Store → Prop
  | options (fault : OptionFault) : Leaves store text (.error (.options fault)) store
  | lexical (error : LexError) : Leaves store text (.error (.lexical error)) store
  | semantic {tokens : List Token} {executed rest : List (List Token)} {line : List Token}
      {fault : StatementFault} (read : Lexer.tokens text = .ok tokens)
      (cut : Line.group tokens = executed ++ line :: rest)
      (refused : Statement.interpret (Program.defined store executed) line = .error fault) :
      Leaves store text (.error (.semantic fault)) (Program.defined store executed)
  | render {tokens : List Token} {fault : RenderFault} (read : Lexer.tokens text = .ok tokens) :
      Leaves store text (.error (.render fault)) (Program.defined store (Line.group tokens))
  | compiled {compilation : Compilation} (read : Lexer.tokens text = .ok compilation.tokens) :
      Leaves store text (.ok compilation)
        (Program.defined store (Line.group compilation.tokens))

/-- `Program.Executed` without a fault: nothing is `pending`, so that `Program.defined` runs over
all lines. -/
lemma store_of_parse_ok {records : List Record} {final : Store}
    (parsed : Program.parse store tokens = (.ok records, final)) :
    final = Program.defined store (Line.group tokens) := by
  obtain ⟨executed, pending, cut, h⟩ := Program.executed_parse store tokens
  rw [parsed] at h
  rcases h.stopped with ⟨rfl, -⟩ | ⟨_, _, _, _, failed, -⟩
  · rw [cut, List.append_nil]
    exact h.changed
  · simp at failed

/-- `Program.Executed` with a fault: `Program.defined` runs over the lines before the one that is to
blame. -/
lemma store_of_parse_error {fault : StatementFault} {final : Store}
    (parsed : Program.parse store tokens = (.error fault, final)) :
    ∃ executed line rest, Line.group tokens = executed ++ line :: rest ∧
      Statement.interpret final line = .error fault ∧ final = Program.defined store executed := by
  obtain ⟨executed, pending, cut, h⟩ := Program.executed_parse store tokens
  rw [parsed] at h
  rcases h.stopped with ⟨-, _, succeeded⟩ | ⟨line, rest, _, rfl, failed, refused⟩
  · simp at succeeded
  · obtain rfl := Except.error.inj failed
    exact ⟨executed, line, rest, cut, refused, h.changed⟩

lemma leaves_checked (options : Options) (store : Store) (text : Text) :
    Leaves store text (checked options store text).1 (checked options store text).2 := by
  unfold checked
  split
  · exact .lexical _
  rename_i tokens read
  split
  · rename_i parsed
    obtain ⟨executed, line, rest, cut, refused, rfl⟩ := store_of_parse_error parsed
    exact .semantic read cut refused
  rename_i records final parsed
  obtain rfl := store_of_parse_ok parsed
  split
  · exact .render read
  · exact .compiled read

/-- Lines are executed one by one up to the first that is refused (`Program.Executed`), and all that
they change in the store is the bindings of `Program.defined`.  A compilation that shares a store
thus leaves it alone unless the text can be read, and keeps all definitions of a program that is
accepted, even if it cannot be written (`Leaves`). -/
theorem store_changed_by_definitions (store : Store) :
    (∀ tokens, ∃ executed pending, Line.group tokens = executed ++ pending ∧
      Program.Executed store executed pending (Program.parse store tokens).1
        (Program.parse store tokens).2) ∧
    ∀ options text, Leaves store text (Compile.source options store text).1
      (Compile.source options store text).2 := by
  refine ⟨Program.executed_parse store, fun options text => ?_⟩
  unfold Compile.source
  split
  · exact .options _
  · exact leaves_checked _ store text

end Compile

end UtilityCss
