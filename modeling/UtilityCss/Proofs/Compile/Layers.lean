import UtilityCss.Compile
import UtilityCss.Proofs.Import.Resolution
import UtilityCss.Proofs.Layer.Contribution
import UtilityCss.Proofs.Layer.Sheet

/-!
# The layers of a compiled file

A file is compiled with everything that it builds on, and each of these files is a layer of the
style sheet.  On the way the files become one text, the text becomes tokens and the tokens become
records, and in none of these forms are files kept apart by more than the markers of their layers.
That is enough (`Compilation.Layered`): what a file contributes ends up in its own layer, the layers
do not overlap, and they stand in the order in which the files were bundled.
-/

namespace UtilityCss

variable {options : Options} {store : Store} {source : Text} {compilation : Compilation}

/-! ## A compilation in three steps -/

/-- The stages of `checked` in a row, with the store that `Program.parse` leaves.
`checked_eq_ok_iff` forgets the store, which is what callers without a shared one need. -/
lemma Compile.checked_of_stages {tokens : List Token} {records : List Record} {final : Store}
    {css : Text} (read : Lexer.tokens source = .ok tokens)
    (parsed : Program.parse store tokens = (.ok records, final))
    (written : Sheet.generate options.style records = .ok css) :
    Compile.checked options store source =
      (.ok ⟨css, records, tokens, final.all, []⟩, final) := by
  unfold Compile.checked
  simp only [read, parsed, written]

/-- A `Compilation` keeps what each stage gave, so that the stages can be read off its fields:
`tokens`, `records` and `css` determine one another in that order. -/
lemma Compile.checked_eq_ok_iff :
    (Compile.checked options store source).1 = .ok compilation ↔
      ∃ final, Lexer.tokens source = .ok compilation.tokens ∧
        Program.parse store compilation.tokens = (.ok compilation.records, final) ∧
        Sheet.generate options.style compilation.records = .ok compilation.css ∧
        compilation.bindings = final.all ∧ compilation.files = [] := by
  constructor
  · intro h
    unfold Compile.checked at h
    split at h
    · simp at h
    rename_i tokens read
    split at h
    · simp at h
    rename_i records final parsed
    split at h
    · simp at h
    · rename_i css written
      obtain rfl := Except.ok.inj h
      exact ⟨final, read, parsed, written, rfl, rfl⟩
  · rintro ⟨final, read, parsed, written, bindings, files⟩
    rw [Compile.checked_of_stages read parsed written, ← bindings, ← files]

/-- `file` is `checked` on the text of the bundle, from the empty store, with the files of the
bundle put in. -/
lemma Compile.file_eq_ok_iff {texts : OptionTexts} {tree : FileTree} {current : Location}
    {entry : Text} {output : Option Text} {progress : Progress}
    (valid : texts.validate = .ok options)
    (bundled : Compile.bundle options tree current entry output = .ok progress) :
    Compile.file texts tree current entry output = .ok compilation ↔
      ∃ inside, (Compile.checked options .empty (Bundle.ofProgress progress).text).1 = .ok inside ∧
        { inside with files := (Bundle.ofProgress progress).files } = compilation := by
  unfold Compile.file
  simp only [valid, bundled, map_eq_ok_iff]

lemma Compile.file_of_bundle_error {texts : OptionTexts} {tree : FileTree} {current : Location}
    {entry : Text} {output : Option Text} {failure : Failure}
    (valid : texts.validate = .ok options)
    (bundled : Compile.bundle options tree current entry output = .error failure) :
    Compile.file texts tree current entry output = .error (.imports failure.fault) := by
  unfold Compile.file
  simp only [valid, bundled]

/-- `file_eq_ok_iff` with `checked_of_stages` put in, for evaluating a compilation stage by
stage. -/
lemma Compile.file_of_stages {texts : OptionTexts} {tree : FileTree} {current : Location}
    {entry : Text} {output : Option Text} {progress : Progress} {tokens : List Token}
    {records : List Record} {final : Store} {css : Text} (valid : texts.validate = .ok options)
    (bundled : Compile.bundle options tree current entry output = .ok progress)
    (read : Lexer.tokens (Bundle.ofProgress progress).text = .ok tokens)
    (parsed : Program.parse .empty tokens = (.ok records, final))
    (written : Sheet.generate options.style records = .ok css) :
    Compile.file texts tree current entry output =
      .ok ⟨css, records, tokens, final.all, (Bundle.ofProgress progress).files⟩ :=
  (Compile.file_eq_ok_iff valid bundled).2
    ⟨_, congrArg Prod.fst (Compile.checked_of_stages read parsed written), rfl⟩

lemma OptionTexts.layers_of_validate {texts : OptionTexts} (h : texts.validate = .ok options) :
    options.style.layers = texts.layers := by
  unfold OptionTexts.validate at h
  split at h
  · simp at h
  split at h
  · simp at h
  split at h
  · obtain rfl := Except.ok.inj h
    rfl
  · simp at h

/-! ## Layers -/

/-- A compilation that amounts to the given spans. -/
structure Compilation.Layered (style : Style) (spans : List (Span Record.layer))
    (compilation : Compilation) : Prop where
  /-- The records are those of the spans, one span after the other. -/
  records : compilation.records = spans.flatMap Span.flat
  /-- The style sheet states the order of the layers, has a layer for each span and ends with the
  rules under media conditions. -/
  css : ∃ (sheets : List (Span Item.layer)) (media : List Entry),
    List.Forall₂ (Span.Written style) spans sheets ∧
    (∀ entry ∈ media, ∃ condition rules, entry = .media condition rules) ∧
    compilation.css = Text.trim (Text.join style.mode.separator
      (Sheet.orderTexts (spans.map Span.name) ++ sheets.flatMap (Sheet.layerTexts style.mode) ++
        media.map (Entry.render style.mode)))

namespace Compile

/-- Both names that `Bundle.rootLayer` may give are made by `layerName`, which leaves no blank in
them, so that a layer marker reads the whole name. -/
lemma not_isBlank_of_mem_rootLayer (output : Option Text) (root : Location) :
    ∀ c ∈ Bundle.rootLayer (outputLayer output) root, isBlank c = false := by
  unfold Bundle.rootLayer
  cases named : (outputLayer output).filter (· ≠ []) with
  | none => exact not_isBlank_of_mem_layerName root.stem
  | some name =>
    obtain ⟨path, -, rfl⟩ := Option.map_eq_some_iff.1 (Option.eq_some_of_filter_eq_some named)
    exact not_isBlank_of_mem_layerName (Path.parse path).stem

/-- What each file contributes to a compilation is kept in its own layer, in the order in which
`Bundle.Represents` lists the files.  `Span.tidy` leaves repetitions out, and with them every layer
in which nothing else remains. -/
theorem file_layered (options : OptionTexts) (tree : FileTree) (current : Location) (entry : Text)
    (output : Option Text) (checked : Options) (progress : Progress) (compilation : Compilation)
    (valid : options.validate = .ok checked) (layers : options.layers = true)
    (bundled : bundle checked tree current entry output = .ok progress)
    (plain : ∀ block ∈ progress.blocks, ∀ tokens, Lexer.tokens block.body = .ok tokens →
      Lexer.Plain tokens)
    (compiled : file options tree current entry output = .ok compilation) :
    ∃ root contributions final,
      current.resolve (Path.parse entry) = .ok root ∧
      Bundle.Represents
        (.ofTree tree (settings current checked.templatesDirectory checked.extension)) root
        (outputLayer output) (Bundle.ofProgress progress)
        (contributions.map Contribution.block) ∧
      Contributes [] .empty contributions final ∧
      compilation.Layered checked.style (Span.tidy (contributions.map Contribution.span)) := by
  have resolves : Bundle.Resolves
      (.ofTree tree (settings current checked.templatesDirectory checked.extension))
      (Catalog.ofTree tree).fault (Path.parse entry) (outputLayer output)
      (bundle checked tree current entry output) :=
    Bundle.resolves_resolve (Catalog.text?_ofTree tree)
  obtain ⟨root, leads, represents⟩ := resolves.represents bundled
  have solid : ∀ block ∈ progress.blocks.reverse, ∀ c ∈ block.layer, isBlank c = false := by
    intro block mem
    rw [represents.layer block mem]
    split
    · exact not_isBlank_of_mem_rootLayer output root
    · exact not_isBlank_of_mem_layerName block.location.stem
  obtain ⟨inside, done, rfl⟩ := (file_eq_ok_iff valid bundled).1 compiled
  obtain ⟨final, read, parsed, written, -, -⟩ := checked_eq_ok_iff.1 done
  rw [represents.text] at read
  obtain ⟨all, ran, tidied⟩ := Program.parse_eq_ok parsed
  obtain ⟨contributions, blocks, contributes, rfl⟩ :=
    contributes_of_run solid (fun block mem => plain block (List.mem_reverse.1 mem))
      (Lexer.tokensFrom_of_tokens read) ran
  have records : inside.records =
      (Span.tidy (contributions.map Contribution.span)).flatMap Span.flat := by
    rw [tidied, Span.tidy_flatMap]
  rw [records] at written
  refine ⟨root, contributions, final, leads, blocks ▸ represents, contributes, records, ?_⟩
  exact Sheet.generate_flatMap (layers ▸ OptionTexts.layers_of_validate valid) written

/-! ## A file that only repeats what it imports -/

/-- Two files with the same statement, of which one imports the other. -/
def repetition : FileTree where
  nodes := [
    (⟨["page.lui".toList]⟩, .file (Utf8.encode "IMPORT (a b)\nADD animation 1//".toList)),
    (⟨["a b.lui".toList]⟩, .file (Utf8.encode "ADD animation 1".toList))]

def importedBlock : Block := ⟨⟨["a b.lui".toList]⟩, "a-b", "ADD animation 1"⟩

def importingBlock : Block := ⟨⟨["page.lui".toList]⟩, "page", "\nADD animation 1//"⟩

def repetitionProgress : Progress :=
  .finished
    [.entered ⟨["a b.lui".toList]⟩ "ADD animation 1",
      .entered ⟨["page.lui".toList]⟩ "IMPORT (a b)\nADD animation 1//"]
    [importingBlock, importedBlock]

/-- The tokens of the statement. -/
def statementTokens : List Token :=
  [.keyword "ADD", .property "animation", .value (.integer 1)]

def repetitionTokens : List Token :=
  .layer "a-b" .start :: statementTokens ++ [.newline, .layer "a-b" .stop, .newline] ++
    .layer "page" .start :: .newline :: statementTokens ++
    [.comment .hidden [], .newline, .layer "page" .stop]

lemma plain_repetition :
    ∀ block ∈ repetitionProgress.blocks, ∀ tokens, Lexer.tokens block.body = .ok tokens →
      Lexer.Plain tokens := by
  have importing : Lexer.tokens importingBlock.body =
      .ok (.newline :: statementTokens ++ [.comment .hidden []]) := by
    decide +kernel
  have imported : Lexer.tokens importedBlock.body = .ok statementTokens := by
    decide +kernel
  intro block mem tokens read
  rcases List.mem_cons.1 mem with rfl | mem
  · obtain rfl := Except.ok.inj (importing.symm.trans read)
    simp [Lexer.Plain, statementTokens, Token.newline]
  · obtain rfl := List.mem_singleton.1 mem
    obtain rfl := Except.ok.inj (imported.symm.trans read)
    simp [Lexer.Plain, statementTokens]

lemma tokens_repetition :
    Lexer.tokens (Bundle.ofProgress repetitionProgress).text = .ok repetitionTokens := by
  have text : (Bundle.ofProgress repetitionProgress).text =
      importedBlock.render ++ '\n' :: (importingBlock.render ++ []) := by
    simp [repetitionProgress, Bundle.joined, Text.join, List.intercalate_cons_cons]
  let prior : List Token := .newline :: Lexer.behind [] importedBlock statementTokens
  have imported : Lexer.ReadsBody [] importedBlock statementTokens := by
    unfold Lexer.ReadsBody
    decide +kernel
  have importing : Lexer.ReadsBody prior importingBlock
      (.newline :: statementTokens ++ [.comment .hidden []]) := by
    unfold Lexer.ReadsBody
    decide +kernel
  have read : Lexer.tokensFrom [] (Bundle.ofProgress repetitionProgress).text =
      .ok repetitionTokens := by
    calc
      _ = Lexer.tokensFrom [] (importedBlock.render ++ '\n' :: (importingBlock.render ++ [])) := by
        rw [text]
      _ = Lexer.tokensFrom prior (importingBlock.render ++ []) := by
        rw [Lexer.tokensFrom_block_of_readsBody (not_isBlank_of_mem_layerName "a b".toList)
          (by decide) imported (by simp [Lexer.Plain, statementTokens]), Lexer.tokensFrom_newline]
      _ = .ok repetitionTokens := by
        rw [Lexer.tokensFrom_block_of_readsBody (not_isBlank_of_mem_layerName "page".toList)
          (by decide) importing (by simp [Lexer.Plain, statementTokens, Token.newline])]
        decide +kernel
  simp [Lexer.tokens, read]

theorem file_layered_repetition :
    let options : OptionTexts := { layers := true }
    let checked : Options := ⟨⟨.minimalistic, .standard, true, false⟩, [], ".lui".toList⟩
    ∃ compilation, options.validate = .ok checked ∧ options.layers = true ∧
      bundle checked repetition .root "page.lui".toList none = .ok repetitionProgress ∧
      (∀ block ∈ repetitionProgress.blocks, ∀ tokens, Lexer.tokens block.body = .ok tokens →
        Lexer.Plain tokens) ∧
      file options repetition .root "page.lui".toList none = .ok compilation ∧
      ∃ root contributions final,
        Location.root.resolve (Path.parse "page.lui".toList) = .ok root ∧
        Bundle.Represents
          (.ofTree repetition (settings .root checked.templatesDirectory checked.extension)) root
          (outputLayer none) (Bundle.ofProgress repetitionProgress)
          (contributions.map Contribution.block) ∧
        Contributes [] .empty contributions final ∧
        compilation.Layered checked.style
          (Span.tidy (contributions.map Contribution.span)) := by
  intro options checked
  have valid : options.validate = .ok checked := rfl
  have bundled : bundle checked repetition .root "page.lui".toList none =
      .ok repetitionProgress := by
    unfold bundle Bundle.resolve Bundle.follow
    rw [Bundle.expand_eq]
    decide +kernel
  let records : List Record :=
    [.layer "a-b" .start, .rule ⟨"animation", ["1"], none, none, none, by simp⟩,
      .layer "a-b" .stop]
  have parsed : Program.parse .empty repetitionTokens = (.ok records, .empty) := rfl
  obtain ⟨css, written⟩ : ∃ css, Sheet.generate checked.style records = .ok css := ⟨_, rfl⟩
  have compiled := (file_eq_ok_iff valid bundled).2
    ⟨⟨css, records, repetitionTokens, _, _⟩,
      checked_eq_ok_iff.2 ⟨_, tokens_repetition, parsed, written, rfl, rfl⟩, rfl⟩
  exact ⟨_, valid, rfl, bundled, plain_repetition, compiled,
    file_layered options repetition .root _ none checked _ _ valid rfl bundled
      plain_repetition compiled⟩

end Compile

end UtilityCss
