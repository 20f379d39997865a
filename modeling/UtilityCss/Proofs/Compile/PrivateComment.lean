import UtilityCss.Proofs.Compile.Blocks
import UtilityCss.Proofs.Statement.PrivateComment
import UtilityCss.Proofs.Token.PrivateComment

/-!
# Private comments in a source

A private comment ends the line that it is on.  It is one more token there, and statements do not
look at it, so that a text that is compiled is compiled to the same with a private comment at the
end of any line that has none (`Compile.source_comment`).  The line may be blank, and it may be a
marker of a layer.  If it has a comment of its own, what is written after it is part of that
comment.
-/

namespace UtilityCss.Compile

/-- A private comment at the end of a line without comments changes neither the style sheet nor the
records nor the store.  The lines of the program differ by the comment token alone
(`Lexer.lines_comment`), and interpreting a line is blind to it (`Statement.interpret_comment`). -/
theorem source_comment (options : OptionTexts) (store : Store) (above line below content : Text)
    (compilation : Compilation) (isLine : Lexer.IsLine above line below)
    (compiled : (source options store (above ++ line ++ below)).1 = .ok compilation)
    (noComment : ∀ visibility text, .comment visibility text ∉ Lexer.tokensOn above line)
    (hidden : Lexer.IsPrivate content) :
    ∃ commented,
      source options store (above ++ (line ++ " //".toList ++ content) ++ below) =
        (.ok commented, (source options store (above ++ line ++ below)).2) ∧
      commented.css = compilation.css ∧ commented.records = compilation.records ∧
      commented.bindings = compilation.bindings := by
  obtain ⟨valid, accepted, compiled⟩ := source_eq_ok_iff.1 compiled
  obtain ⟨final, read, parsed, written, bindings, -⟩ := checked_eq_ok_iff.1 compiled
  obtain ⟨all, ran, tidied⟩ := Program.parse_eq_ok parsed
  have original := checked_of_stages read parsed written
  rw [List.append_assoc] at read
  obtain ⟨upper, lower, lines, comment⟩ := Lexer.lines_comment isLine read
  rw [lines] at ran
  have noKeyword := Program.noLayerKeyword_of_run ran noComment
  obtain ⟨tokens, commentRead, commentLines⟩ := comment noComment noKeyword content hidden
  have commentRan : Program.run store (Line.group tokens) = (.ok all, final) := by
    rw [commentLines, Program.run_comment (noComment .shown), ran]
  have commentParsed : Program.parse store tokens = (.ok compilation.records, final) := by
    rw [Program.parse_of_run commentRan, tidied]
    rfl
  have place : above ++ (line ++ " //".toList ++ content) ++ below =
      above ++ (line ++ ' ' :: '/' :: '/' :: (content ++ below)) := by
    simp
  refine ⟨⟨compilation.css, compilation.records, tokens, final.all, []⟩, ?_, rfl, rfl,
    bindings.symm⟩
  unfold source
  simp only [accepted]
  rw [original, place, checked_of_stages commentRead commentParsed written]

theorem source_comment_layerStart :
    ∃ compilation commented,
      (source {} .empty "LAYER a START\nADD animation 1\nLAYER a END").1 = .ok compilation ∧
      (source {} .empty "LAYER a START // b\nADD animation 1\nLAYER a END").1 = .ok commented ∧
      commented.css = compilation.css ∧ commented.records = compilation.records ∧
      commented.bindings = compilation.bindings := by
  let tokens : List Token := [.layer "a" .start, .keyword "ADD", .property "animation",
    .value (.integer 1), .newline, .layer "a" .stop]
  let records : List Record := [.layer "a" .start,
    .rule ⟨"animation", ["1"], none, none, none, by simp⟩, .layer "a" .stop]
  have read : Lexer.tokens "LAYER a START\nADD animation 1\nLAYER a END" = .ok tokens := by
    decide +kernel
  have marker : Lexer.tokensOn [] "LAYER a START" = [.layer "a" .start] := by decide +kernel
  have parsed : Program.parse .empty tokens = (.ok records, .empty) := rfl
  obtain ⟨valid, accepted⟩ : ∃ valid, OptionTexts.validate {} = .ok valid := ⟨_, rfl⟩
  obtain ⟨css, written⟩ : ∃ css, Sheet.generate valid.style records = .ok css := by
    obtain rfl := Except.ok.inj accepted
    exact ⟨_, rfl⟩
  have compiled : (source {} .empty "LAYER a START\nADD animation 1\nLAYER a END").1 =
      .ok ⟨css, records, tokens, [], []⟩ :=
    source_eq_ok_iff.2 ⟨valid, accepted, checked_eq_ok_iff.2 ⟨.empty, read, parsed, written, rfl,
      rfl⟩⟩
  have noComment : ∀ visibility text, .comment visibility text ∉
      Lexer.tokensOn [] "LAYER a START" := by
    rw [marker]
    simp
  obtain ⟨commented, same, css, records, bindings⟩ := source_comment {} .empty [] "LAYER a START"
    "\nADD animation 1\nLAYER a END" " b" _ ⟨.inl rfl, by decide, .inr rfl⟩ compiled noComment
    ⟨by decide, by decide⟩
  exact ⟨_, commented, compiled, congrArg Prod.fst same, css, records, bindings⟩

end UtilityCss.Compile
