import UtilityCss.Command.Run
import UtilityCss.Proofs.Compile.Layers
import UtilityCss.Proofs.FileTree.Writing

/-!
# What a command line writes

Only a compilation writes anything, and it writes once, when the whole style sheet is there.  As
long as it is stopped before that, the files stay as they were (`Command.Refused`).  What can go
wrong later goes wrong too late: the output is opened, and thereby emptied, before the style sheet
is encoded, and the report is printed when the style sheet stands there already.
`Command.run_writes` tells these cases apart for every reader of command lines, and
`Command.run_spoils_output` has a name that is no text go wrong in both ways.
-/

namespace UtilityCss.Command

variable {surroundings : Surroundings} {tree : FileTree} {current : Location}
  {request : CompileRequest} {output : Path} {compilation : Compilation}

/-! ## What a compilation comes to -/

/-- A compilation comes to a style sheet, which is to be written to a path. -/
structure Styles (tree : FileTree) (current : Location) (request : CompileRequest) (output : Path)
    (compilation : Compilation) : Prop where
  named : outputPath request = .ok output
  compiled : Compile.file request.options tree current request.input (some output.toText) =
    .ok compilation

/-- A compilation has nothing to write or cannot begin to write it. -/
inductive Refused (tree : FileTree) (current : Location) (request : CompileRequest) : Prop
  | nameless {fault : EmptyName} (named : outputPath request = .error fault)
  | failed {output : Path} {error : Error} (named : outputPath request = .ok output)
      (failed : Compile.file request.options tree current request.input (some output.toText) =
        .error error)
  | closed {output : Path} {compilation : Compilation}
      (styles : Styles tree current request output compilation)
      (refuses : tree.Refuses current output.toText)

/-- The lines that a compilation prints in the end. -/
def reportLines (surroundings : Surroundings) (request : CompileRequest) (output : Path)
    (compilation : Compilation) : List Text :=
  compileReport request output.toText compilation ++ [Outcome.timeLine surroundings.seconds]

/-- `print` leaves `tree` alone, so that its exit code and its `abort` depend on the lines only:
both say whether `Surroundings.prints` takes every one of them. -/
lemma print_spec (surroundings : Surroundings) (tree : FileTree) (log : Text)
    (lines : List Text) :
    (print surroundings tree log lines).tree = tree ∧
      ((print surroundings tree log lines).exitCode = 0 ↔
        ∀ line ∈ lines, surroundings.prints line = true) ∧
      ((print surroundings tree log lines).abort = none ↔
        ∀ line ∈ lines, surroundings.prints line = true) := by
  unfold print
  split
  · rename_i line found
    have missing : ¬ ∀ line ∈ lines, surroundings.prints line = true := fun all => by
      simpa [all line (List.mem_of_find?_eq_some found)] using List.find?_some found
    exact ⟨rfl, iff_of_false (Nat.succ_ne_zero 0) missing,
      iff_of_false (Option.some_ne_none _) missing⟩
  · rename_i found
    have all : ∀ line ∈ lines, surroundings.prints line = true := by
      simpa using List.find?_eq_none.1 found
    exact ⟨rfl, iff_of_true rfl all, iff_of_true rfl all⟩

lemma report_spec (surroundings : Surroundings) (tree : FileTree) (log : Text)
    (lines : List Text) :
    (report surroundings tree log lines).tree = tree ∧
      ((report surroundings tree log lines).exitCode = 0 ↔
        ∀ line ∈ lines ++ [Outcome.timeLine surroundings.seconds],
          surroundings.prints line = true) := by
  obtain ⟨kept, succeeds, -⟩ := print_spec surroundings tree log
    (lines ++ [Outcome.timeLine surroundings.seconds])
  unfold report
  simp only
  split
  · exact ⟨kept, succeeds⟩
  · exact ⟨kept, succeeds⟩

/-- From `Styles` on, a `compile` has two steps left: `FileTree.write`, which decides what becomes
of the tree, and `print`, which is reached only if the first gave `.ok ()`.  `compile_cases` puts
the cases of `FileTree.write_cases` in. -/
lemma compile_of_styles (verbose : Bool) (styles : Styles tree current request output compilation)
    {result : Except WriteFault Unit} {after : FileTree}
    (wrote : tree.write surroundings.stray current output.toText compilation.css =
      (result, after)) :
    (compile surroundings tree current verbose request).tree = after ∧
      ((compile surroundings tree current verbose request).exitCode = 0 ↔
        result = .ok () ∧
          ∀ line ∈ reportLines surroundings request output compilation,
            surroundings.prints line = true) := by
  unfold compile
  simp only [styles.named, styles.compiled, wrote]
  cases result with
  | ok done =>
    obtain ⟨kept, succeeds⟩ := report_spec surroundings after
      (logText verbose (compileNotes tree current request output.toText))
      (compileReport request output.toText compilation)
    exact ⟨kept, succeeds.trans (and_iff_right rfl).symm⟩
  | error fault => cases fault <;> exact ⟨rfl, by simp [Outcome.aborted, Outcome.failed]⟩

/-- The cases of `FileTree.write_cases`, seen from `compile`: it is stopped before it writes, it
empties its output, or it writes all of it.  Without `Styles` it never comes to `FileTree.write`,
which is why the first case has no output. -/
lemma compile_cases (surroundings : Surroundings) (tree : FileTree) (current : Location)
    (verbose : Bool) (request : CompileRequest) :
    let outcome := compile surroundings tree current verbose request
    (outcome.exitCode ≠ 0 ∧ outcome.tree = tree ∧ Refused tree current request) ∨
    ∃ output compilation, Styles tree current request output compilation ∧
      ((compilation.css.any surroundings.stray = true ∧ outcome.exitCode ≠ 0 ∧
        tree.Writes current output.toText [] outcome.tree) ∨
      (compilation.css.any surroundings.stray = false ∧
        (outcome.exitCode = 0 ↔ ∀ line ∈ reportLines surroundings request output compilation,
          surroundings.prints line = true) ∧
        tree.Writes current output.toText (Utf8.encode compilation.css) outcome.tree)) := by
  intro outcome
  cases named : outputPath request with
  | error fault =>
    have stopped : outcome = .aborted tree [] [] (.emptyName fault) := by
      simp only [outcome, compile, named]
    exact .inl ⟨stopped ▸ Nat.succ_ne_zero 0, stopped ▸ rfl, .nameless named⟩
  | ok output =>
    cases compiled : Compile.file request.options tree current request.input
        (some output.toText) with
    | error error =>
      have stopped : outcome = Command.stopped tree
          (logText verbose (compileNotes tree current request output.toText)) error := by
        simp only [outcome, compile, named, compiled]
      exact .inl ⟨stopped ▸ Nat.succ_ne_zero 0, stopped ▸ rfl, .failed named compiled⟩
    | ok compilation =>
      have styles : Styles tree current request output compilation := ⟨named, compiled⟩
      rcases tree.write_cases surroundings.stray current output.toText compilation.css with
        ⟨refuses, fault, wrote⟩ | ⟨spoilt, after, wrote, writes⟩ | ⟨clean, after, wrote, writes⟩
      · obtain ⟨kept, succeeds⟩ := compile_of_styles verbose styles wrote
        exact .inl ⟨by simp [outcome, succeeds], kept, .closed styles refuses⟩
      · obtain ⟨kept, succeeds⟩ := compile_of_styles verbose styles wrote
        exact .inr ⟨output, compilation, styles,
          .inl ⟨spoilt, by simp [outcome, succeeds], kept ▸ writes⟩⟩
      · obtain ⟨kept, succeeds⟩ := compile_of_styles verbose styles wrote
        exact .inr ⟨output, compilation, styles,
          .inr ⟨clean, by simp [outcome, succeeds], kept ▸ writes⟩⟩

lemma tokens_keeps (surroundings : Surroundings) (tree : FileTree) (current : Location)
    (verbose : Bool) (request : TokensRequest) :
    (tokens surroundings tree current verbose request).tree = tree := by
  unfold tokens
  simp only
  split
  · rfl
  split
  · rfl
  · exact (print_spec surroundings tree _ _).1

lemma runIn_of_asked {arguments : List Text} {task : Task}
    (asked : surroundings.reader tree current arguments = .ok task) :
    runIn surroundings tree current arguments = perform surroundings tree current task := by
  unfold runIn
  rw [asked]

/-- Whatever `Surroundings.reader` makes of a command line, only `Task.compile` changes any file
(`compile_cases`).  It is stopped before it writes and leaves the files as they were; or its style
sheet has a `stray` character, which has no encoding, and it leaves an empty file at the output
path; or the whole style sheet stands there, whether or not the report could then be printed, and
the exit code is 0 if it could.  Nothing else changes (`FileTree.Writes`).  Where nothing is stray
and every line can be printed, a run that does not end with 0 therefore leaves the files as they
were. -/
theorem run_writes (surroundings : Surroundings) (tree : FileTree) (current : Location)
    (arguments : List Text) :
    let outcome := runIn surroundings tree current arguments
    (∀ ending, surroundings.reader tree current arguments = .error ending →
      outcome.tree = tree) ∧
    (∀ verbose request,
      surroundings.reader tree current arguments = .ok (.tokens verbose request) →
      outcome.tree = tree) ∧
    (∀ verbose request,
      surroundings.reader tree current arguments = .ok (.compile verbose request) →
      (outcome.exitCode ≠ 0 ∧ outcome.tree = tree ∧ Refused tree current request) ∨
      ∃ output compilation, Styles tree current request output compilation ∧
        ((compilation.css.any surroundings.stray = true ∧ outcome.exitCode ≠ 0 ∧
          tree.Writes current output.toText [] outcome.tree) ∨
        (compilation.css.any surroundings.stray = false ∧
          (outcome.exitCode = 0 ↔ ∀ line ∈ reportLines surroundings request output compilation,
            surroundings.prints line = true) ∧
          tree.Writes current output.toText (Utf8.encode compilation.css) outcome.tree))) ∧
    ((∀ c, surroundings.stray c = false) → (∀ line, surroundings.prints line = true) →
      outcome.exitCode ≠ 0 → outcome.tree = tree) := by
  intro outcome
  cases asked : surroundings.reader tree current arguments with
  | error ending =>
    have kept : outcome.tree = tree := by
      simp only [outcome, runIn, asked]
      rfl
    exact ⟨fun _ _ => kept, by simp, by simp, fun _ _ _ => kept⟩
  | ok task =>
    have performed : outcome = perform surroundings tree current task := runIn_of_asked asked
    rw [performed]
    cases task with
    | tokens verbose request =>
      have kept := tokens_keeps surroundings tree current verbose request
      exact ⟨by simp, fun _ _ _ => kept, by simp, fun _ _ _ => kept⟩
    | compile verbose request =>
      have cases := compile_cases surroundings tree current verbose request
      refine ⟨by simp, by simp, fun _ _ same => ?_, fun clean prints failed => ?_⟩
      · cases same
        exact cases
      · rcases cases with ⟨-, kept, -⟩ | ⟨output, compilation, -, ⟨spoilt, -, -⟩ | ⟨-, ends, -⟩⟩
        · exact kept
        · simp [clean] at spoilt
        · exact absurd (ends.2 fun line _ => prints line) failed

/-! ## A file with one statement -/

/-- The block of a file with one statement, in the layer of the given name. -/
def statementBlock (location : Location) (layer : Text) : Block :=
  ⟨location, layer, "ADD animation 1"⟩

/-- The progress of a bundling that finds nothing but this file. -/
def statementProgress (location : Location) (layer : Text) : Progress :=
  .finished [.entered location "ADD animation 1"] [statementBlock location layer]

def statementRecords (layer : Text) : List Record :=
  [.layer layer .start, .rule ⟨"animation", ["1"], none, none, none, List.cons_ne_nil _ _⟩,
    .layer layer .stop]

set_option maxRecDepth 1000 in
lemma tokensFrom_statementBlock {location : Location} {layer : Text}
    (solid : ∀ c ∈ layer, isBlank c = false) (given : layer ≠ []) (below : Text) :
    Lexer.tokensFrom [] ((statementBlock location layer).render ++ below) =
      Lexer.tokensFrom (Lexer.behind [] (statementBlock location layer) Compile.statementTokens)
        below := by
  have gap (prior : List Token) (rest : Text) : Lexer.step prior ' ' rest = .ok ([], rest) := rfl
  have keyword (prior : List Token) : Lexer.step prior 'A' "DD animation 1".toList =
      .ok ([.keyword "ADD"], " animation 1".toList) := rfl
  have property (prior : List Token) :
      Lexer.step (.keyword "ADD" :: prior) 'a' "nimation 1".toList =
        .ok ([.property "animation"], " 1".toList) := rfl
  have number (prior : List Token) : Lexer.step prior '1' [] = .ok ([.value (.integer 1)], []) :=
    rfl
  have body : Lexer.ReadsBody [] (statementBlock location layer) Compile.statementTokens := calc
    _ = _ := Lexer.tokensFrom_of_step (keyword _)
    _ = _ := Lexer.tokensFrom_of_step (gap _ _)
    _ = _ := Lexer.tokensFrom_of_step (property _)
    _ = _ := Lexer.tokensFrom_of_step (gap _ _)
    _ = _ := Lexer.tokensFrom_of_step (number _)
    _ = _ := by rw [Lexer.tokensFrom]; rfl
  exact Lexer.tokensFrom_block_of_readsBody solid given body
    (by simp [Lexer.Plain, Compile.statementTokens])

lemma file_statement {options : OptionTexts} {checked : Options} {location : Location}
    {entry layer css : Text} {output : Option Text} (valid : options.validate = .ok checked)
    (bundled : Compile.bundle checked tree current entry output =
      .ok (statementProgress location layer))
    (solid : ∀ c ∈ layer, isBlank c = false) (given : layer ≠ [])
    (written : Sheet.generate checked.style (statementRecords layer) = .ok css) :
    ∃ compilation, Compile.file options tree current entry output = .ok compilation ∧
      compilation.css = css ∧ compilation.files = [location] := by
  let tokens : List Token :=
    .layer layer .start :: Compile.statementTokens ++ [.newline, .layer layer .stop]
  have text : (Bundle.ofProgress (statementProgress location layer)).text =
      (statementBlock location layer).render ++ [] := by
    simp [statementProgress, Bundle.joined, Text.join]
  have read : Lexer.tokens (Bundle.ofProgress (statementProgress location layer)).text =
      .ok tokens := by
    refine Lexer.tokens_of_tokensFrom ?_
    rw [text, tokensFrom_statementBlock solid given, Lexer.tokensFrom]
    rfl
  have parsed : Program.parse .empty tokens = (.ok (statementRecords layer), .empty) := rfl
  exact ⟨_, Compile.file_of_stages valid bundled read parsed written, rfl, rfl⟩

/-- A request with the usual options but for the layers. -/
def plainRequest (input : Text) (output : Option Text) (layers : Bool) : CompileRequest :=
  ⟨input, output, "minimalistic", "standard", layers, false, none, false, false⟩

def plainOptions (layers : Bool) : Options :=
  ⟨⟨.minimalistic, .standard, layers, false⟩, [], ".lui".toList⟩

lemma styles_statement {location : Location} {input layer css path : Text} {given : Option Text}
    {layers : Bool} (named : outputPath (plainRequest input given layers) = .ok output)
    (spelt : output.toText = path)
    (bundled : Compile.bundle (plainOptions layers) tree current input (some path) =
      .ok (statementProgress location layer))
    (solid : ∀ c ∈ layer, isBlank c = false) (nonempty : layer ≠ [])
    (sheet : Sheet.generate (plainOptions layers).style (statementRecords layer) = .ok css) :
    ∃ compilation, Styles tree current (plainRequest input given layers) output compilation ∧
      compilation.css = css ∧ compilation.files = [location] := by
  subst spelt
  have valid : (plainRequest input given layers).options.validate = .ok (plainOptions layers) :=
    rfl
  obtain ⟨compilation, compiled, same, files⟩ := file_statement valid bundled solid nonempty sheet
  exact ⟨compilation, ⟨named, compiled⟩, same, files⟩

/-! ## Runs in the usual surroundings

A compilation that misses a file, one whose output has no directory, one that succeeds, and a
listing of tokens. -/

def dangling : FileTree where
  nodes := [(⟨["page.lui".toList]⟩, .file (Utf8.encode "IMPORT (base)".toList))]

def importedFile : Location := ⟨["a b.lui".toList]⟩

def statementSheet : Text := ".a_1 " ++ Text.braced "\n  animation: 1;\n"

lemma styles_imported {given : Option Text} {path : Text}
    (named : outputPath (plainRequest "a b.lui" given false) = .ok output)
    (spelt : output.toText = path)
    (bundled : Compile.bundle (plainOptions false) Compile.repetition .root "a b.lui" (some path) =
      .ok (statementProgress importedFile "a-b")) :
    ∃ compilation, Styles Compile.repetition .root (plainRequest "a b.lui" given false) output
        compilation ∧ compilation.css = statementSheet := by
  obtain ⟨compilation, styles, css, -⟩ := styles_statement named spelt bundled
    (not_isBlank_of_mem_layerName "a b".toList) (by decide) rfl
  exact ⟨compilation, styles, css⟩

lemma bundle_imported : Compile.bundle (plainOptions false) Compile.repetition .root "a b.lui"
    (some "a b.css".toList) = .ok (statementProgress importedFile "a-b") := by
  unfold Compile.bundle Bundle.resolve Bundle.follow
  rw [Bundle.expand_eq]
  decide +kernel

/-- In the surroundings `usual` every line can be printed, so that of the two conditions of
`compile_of_styles` only the one on `FileTree.write` is left. -/
lemma exitCode_usual {arguments : List Text} {verbose : Bool} {after : FileTree}
    {result : Except WriteFault Unit}
    (asked : usual.reader tree current arguments = .ok (.compile verbose request))
    (styles : Styles tree current request output compilation)
    (wrote : tree.write usual.stray current output.toText compilation.css = (result, after)) :
    (runIn usual tree current arguments).exitCode = 0 ↔ result = .ok () := by
  rw [runIn_of_asked asked]
  exact (compile_of_styles verbose styles wrote).2.trans (and_iff_left fun _ _ => rfl)

theorem run_writes_repetition :
    ((runIn usual dangling .root ["compile", "page.lui"]).exitCode ≠ 0 ∧
      (runIn usual dangling .root ["compile", "page.lui"]).tree = dangling) ∧
    ((runIn usual Compile.repetition .root ["compile", "a b.lui", "x/a b.css"]).exitCode ≠ 0 ∧
      (runIn usual Compile.repetition .root ["compile", "a b.lui", "x/a b.css"]).tree =
        Compile.repetition) ∧
    ((runIn usual Compile.repetition .root ["compile", "a b.lui"]).exitCode = 0 ∧
      Compile.repetition.Writes .root "a b.css" (Utf8.encode statementSheet)
        (runIn usual Compile.repetition .root ["compile", "a b.lui"]).tree) ∧
    (runIn usual Compile.repetition .root ["tokens", "page.lui"]).tree = Compile.repetition := by
  refine ⟨?_, ?_, ?_, ?_⟩
  · have asked : usual.reader dangling .root ["compile", "page.lui"] =
        .ok (.compile false (plainRequest "page.lui" none false)) := by
      decide +kernel
    have named : outputPath (plainRequest "page.lui" none false) =
        .ok ⟨.relative, ["page.css"]⟩ := by
      decide +kernel
    have lost : Compile.bundle (plainOptions false) dangling .root "page.lui"
        (some "page.css".toList) = .error
          ⟨.load (.directive .sibling) ⟨["base.lui".toList]⟩ (.access .notFound),
            Progress.start.enter ⟨["page.lui".toList]⟩ "IMPORT (base)"⟩ := by
      unfold Compile.bundle Bundle.resolve Bundle.follow
      rw [Bundle.expand_eq]
      decide +kernel
    obtain ⟨-, -, compiles, -⟩ := run_writes usual dangling .root ["compile", "page.lui"]
    rcases compiles _ _ asked with ⟨failed, kept, -⟩ | ⟨output, compilation, styles, -⟩
    · exact ⟨failed, kept⟩
    · obtain rfl := Except.ok.inj (styles.named.symm.trans named)
      have failed : Compile.file (plainRequest "page.lui" none false).options dangling .root
          "page.lui" (some "page.css".toList) = .error (.imports _) :=
        Compile.file_of_bundle_error rfl lost
      exact absurd (failed.symm.trans styles.compiled) (by simp)
  · have asked : usual.reader Compile.repetition .root ["compile", "a b.lui", "x/a b.css"] =
        .ok (.compile false (plainRequest "a b.lui" (some "x/a b.css".toList) false)) := by
      decide +kernel
    have named : outputPath (plainRequest "a b.lui" (some "x/a b.css".toList) false) =
        .ok ⟨.relative, ["x", "a b.css"]⟩ := by
      decide +kernel
    have bundled : Compile.bundle (plainOptions false) Compile.repetition .root "a b.lui"
        (some "x/a b.css".toList) = .ok (statementProgress importedFile "a-b") := by
      unfold Compile.bundle Bundle.resolve Bundle.follow
      rw [Bundle.expand_eq]
      decide +kernel
    obtain ⟨compilation, styles, css⟩ := styles_imported named (by decide) bundled
    have closed : Compile.repetition.write usual.stray .root "x/a b.css" compilation.css =
        (.error (.access .notFound), Compile.repetition) := rfl
    have failed := mt (exitCode_usual asked styles closed).1 (by simp)
    obtain ⟨-, -, -, keeps⟩ :=
      run_writes usual Compile.repetition .root ["compile", "a b.lui", "x/a b.css"]
    exact ⟨failed, keeps (fun _ => rfl) (fun _ => rfl) failed⟩
  · have asked : usual.reader Compile.repetition .root ["compile", "a b.lui"] =
        .ok (.compile false (plainRequest "a b.lui" none false)) := by
      decide +kernel
    have named : outputPath (plainRequest "a b.lui" none false) = .ok ⟨.relative, ["a b.css"]⟩ := by
      decide +kernel
    obtain ⟨compilation, styles, css⟩ := styles_imported named (by decide) bundle_imported
    obtain ⟨after, wrote⟩ : ∃ after, Compile.repetition.write usual.stray .root "a b.css"
        compilation.css = (.ok (), after) := by
      rw [css]
      exact ⟨_, rfl⟩
    have done := (exitCode_usual asked styles wrote).2 rfl
    obtain ⟨-, -, compiles, -⟩ :=
      run_writes usual Compile.repetition .root ["compile", "a b.lui"]
    rcases compiles _ _ asked with
      ⟨failed, -⟩ | ⟨output, found, same, ⟨-, failed, -⟩ | ⟨-, -, writes⟩⟩
    · exact absurd done failed
    · exact absurd done failed
    · obtain rfl := Except.ok.inj (same.named.symm.trans named)
      obtain rfl := Except.ok.inj (same.compiled.symm.trans styles.compiled)
      rw [css] at writes
      exact ⟨done, writes⟩
  · have asked : usual.reader Compile.repetition .root ["tokens", "page.lui"] =
        .ok (.tokens false ⟨"page.lui", none⟩) := by
      decide +kernel
    exact (run_writes usual Compile.repetition .root ["tokens", "page.lui"]).2.1 _ _ asked

/-! ## Runs that leave something else behind

The character in this name is a stand-in for a byte that is no text.  With layers it gets into the
style sheet, whose file has been emptied by then; without them it is only in the report, which comes
when the file is written.  The last run shows which file an output path that is given and empty
stands for. -/

def strayName : Char := '\x1a'

def straySurroundings : Surroundings :=
  { usual with stray := (· = strayName), prints := fun line => strayName ∉ line }

def strayFile : Location := ⟨["a\x1a.css".toList]⟩

def strayTree : FileTree where
  nodes := [
    (⟨["a\x1a.lui".toList]⟩, .file (Utf8.encode "ADD animation 1".toList)),
    (strayFile, .file (Utf8.encode "@layer old;".toList))]

lemma styles_stray {layers : Bool} {css : Text}
    (sheet : Sheet.generate (plainOptions layers).style (statementRecords "a\x1a") = .ok css) :
    ∃ compilation, Styles strayTree .root (plainRequest "a\x1a.lui" none layers)
        ⟨.relative, ["a\x1a.css"]⟩ compilation ∧ compilation.css = css := by
  have named : outputPath (plainRequest "a\x1a.lui" none layers) =
      .ok ⟨.relative, ["a\x1a.css"]⟩ := by
    cases layers <;> decide +kernel
  have bundled : Compile.bundle (plainOptions layers) strayTree .root "a\x1a.lui"
      (some "a\x1a.css".toList) =
        .ok (statementProgress ⟨["a\x1a.lui".toList]⟩ "a\x1a") := by
    unfold Compile.bundle Bundle.resolve Bundle.follow
    rw [Bundle.expand_eq]
    cases layers <;> decide +kernel
  obtain ⟨compilation, styles, css, -⟩ := styles_statement named (by decide) bundled
    (not_isBlank_of_mem_layerName "a\x1a".toList) (by decide) sheet
  exact ⟨compilation, styles, css⟩

/-- The case of `compile_cases` that empties the output, the one in which the sheet is written and
the report fails, and an empty OUTPUT, which `outputPath` takes for none: a run that does not end
with the exit code 0 can leave an output emptied or written, and not at the path that is given. -/
theorem run_spoils_output :
    strayTree.node? strayFile = some (.file (Utf8.encode "@layer old;".toList)) ∧
    (let outcome := runIn straySurroundings strayTree .root ["compile", "--layers", "a\x1a.lui"];
      outcome.exitCode ≠ 0 ∧ outcome.tree.node? strayFile = some (.file [])) ∧
    (let outcome := runIn straySurroundings strayTree .root ["compile", "a\x1a.lui"];
      outcome.exitCode ≠ 0 ∧
        outcome.tree.node? strayFile = some (.file (Utf8.encode statementSheet))) ∧
    (let outcome := runIn usual Compile.repetition .root ["compile", "a b.lui", ""];
      outcome.exitCode = 0 ∧
        outcome.tree.node? ⟨["a b.css".toList]⟩ = some (.file (Utf8.encode statementSheet))) := by
  refine ⟨rfl, ?_, ?_, ?_⟩
  · intro outcome
    have asked : straySurroundings.reader strayTree .root ["compile", "--layers", "a\x1a.lui"] =
        .ok (.compile false (plainRequest "a\x1a.lui" none true)) := by
      decide +kernel
    obtain ⟨css, sheet, spoilt⟩ : ∃ css,
        Sheet.generate (plainOptions true).style (statementRecords "a\x1a") = .ok css ∧
          css.any straySurroundings.stray = true := ⟨_, rfl, rfl⟩
    obtain ⟨compilation, styles, same⟩ := styles_stray sheet
    have wrote : strayTree.write straySurroundings.stray .root "a\x1a.css" compilation.css =
        (.error (.encoding {}), strayTree.set strayFile (.file [])) := by
      have opened : strayTree.create .root "a\x1a.css" =
          .ok (strayFile, strayTree.set strayFile (.file [])) := rfl
      simp only [FileTree.write, opened, Utf8.encodeExcept, same, spoilt]
      rfl
    obtain ⟨kept, succeeds⟩ := compile_of_styles false styles wrote
    have performed : outcome = _ := runIn_of_asked asked
    rw [performed]
    exact ⟨mt succeeds.1 (by simp), by rw [perform, kept]; rfl⟩
  · intro outcome
    have asked : straySurroundings.reader strayTree .root ["compile", "a\x1a.lui"] =
        .ok (.compile false (plainRequest "a\x1a.lui" none false)) := by
      decide +kernel
    obtain ⟨compilation, styles, same⟩ :
        ∃ compilation, Styles strayTree .root (plainRequest "a\x1a.lui" none false)
          ⟨.relative, ["a\x1a.css"]⟩ compilation ∧ compilation.css = statementSheet :=
      styles_stray rfl
    have wrote : strayTree.write straySurroundings.stray .root "a\x1a.css" compilation.css =
        (.ok (), (strayTree.set strayFile (.file [])).set strayFile
          (.file (Utf8.encode statementSheet))) := by
      rw [same]
      rfl
    obtain ⟨kept, succeeds⟩ := compile_of_styles false styles wrote
    have unprintable : ¬ ∀ line ∈ reportLines straySurroundings
        (plainRequest "a\x1a.lui" none false) ⟨.relative, ["a\x1a.css"]⟩ compilation,
        straySurroundings.prints line = true := by
      intro all
      have line := all ("CSS content written to ".toList ++ "a\x1a.css".toList) List.mem_cons_self
      exact absurd line (by decide)
    have performed : outcome = _ := runIn_of_asked asked
    rw [performed]
    exact ⟨mt succeeds.1 fun done => unprintable done.2, by rw [perform, kept]; rfl⟩
  · intro outcome
    have asked : usual.reader Compile.repetition .root ["compile", "a b.lui", ""] =
        .ok (.compile false (plainRequest "a b.lui" (some []) false)) := by
      decide +kernel
    have named : outputPath (plainRequest "a b.lui" (some []) false) =
        .ok ⟨.relative, ["a b.css"]⟩ := by
      decide +kernel
    obtain ⟨compilation, styles, same⟩ := styles_imported named (by decide) bundle_imported
    have wrote : Compile.repetition.write usual.stray .root "a b.css" compilation.css =
        (.ok (), (Compile.repetition.set ⟨["a b.css".toList]⟩ (.file [])).set ⟨["a b.css".toList]⟩
          (.file (Utf8.encode statementSheet))) := by
      rw [same]
      rfl
    have done := (exitCode_usual asked styles wrote).2 rfl
    have performed : outcome = _ := runIn_of_asked asked
    refine ⟨done, ?_⟩
    rw [performed, perform, (compile_of_styles false styles wrote).1]
    rfl

end UtilityCss.Command
