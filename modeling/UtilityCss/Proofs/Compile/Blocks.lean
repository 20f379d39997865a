import UtilityCss.Proofs.Compile.Layers
import UtilityCss.Proofs.Sheet.Blocks

/-!
# What a source can do to its style sheet

Where layers are not kept, a style sheet has one block for each rule and one for each media
condition.  Names, values and media widths of the source never open or close anything, whatever they
are.  Comments and the arguments of pseudo-classes are copied without a look at what is in them, so
the blocks are in order as long as these texts are inert (`Compile.source_balanced`), and a single
comment or argument may break them (`Compile.source_unbalanced`).
-/

namespace UtilityCss.Compile

open Text (Neutral Scans)

variable {options : OptionTexts} {store : Store} {text : Text} {compilation : Compilation}

/-- `source` checks its options and hands the rest to `checked`, so that results about `checked`
carry over. -/
lemma source_eq_ok_iff :
    (Compile.source options store text).1 = .ok compilation ↔
      ∃ valid, options.validate = .ok valid ∧
        (Compile.checked valid store text).1 = .ok compilation := by
  unfold Compile.source
  split
  · rename_i fault refused
    simp [refused]
  · rename_i valid accepted
    simp [accepted]

/-- The names, values and media conditions of a style sheet without layers are neutral
(`Rule.Guarded`, `Text.Neutral`), because they are made of checked words.  Comments and
pseudo-classes are copied as they are; if they are inert (`Record.Inert`), the braces outside of
comments are balanced, and there is a pair of them for each declaration and each media condition. -/
theorem source_balanced (options : OptionTexts) (text : Text) (compilation : Compilation)
    (flat : options.layers = false)
    (compiled : (Compile.source options .empty text).1 = .ok compilation) :
    ∃ valid lines, options.validate = .ok valid ∧
      Sheet.entries valid.style compilation.records = .ok lines ∧
      compilation.css = Entry.renderAll valid.style.mode lines ∧
      (∀ declaration, .rule declaration ∈ compilation.records → ∃ rule,
        Item.ruleOf valid.style.format declaration = .ok rule ∧
          rule.Guarded (Item.pseudo declaration)) ∧
      (∀ condition rules, .media condition rules ∈ lines → Neutral condition) ∧
      ((∀ record ∈ compilation.records, record.Inert) →
        Bracket.Balanced (Text.brackets compilation.css) ∧
        (Text.brackets compilation.css).count .opening =
          compilation.ruleCount + lines.countP Entry.isMedia ∧
        (Text.brackets compilation.css).count .closing =
          compilation.ruleCount + lines.countP Entry.isMedia) := by
  obtain ⟨valid, accepted, checked⟩ := source_eq_ok_iff.1 compiled
  obtain ⟨final, read, parsed, written, -⟩ := checked_eq_ok_iff.1 checked
  have flat : valid.style.layers = false := (OptionTexts.layers_of_validate accepted).trans flat
  have plain : ∀ declaration, .rule declaration ∈ compilation.records → declaration.Plain :=
    fun _ => Program.plain_parse read parsed
  obtain ⟨values, conditions, css⟩ := Sheet.generate_eq_ok_iff.1 written
  refine ⟨valid, Sheet.plan valid.style compilation.records, accepted,
    Sheet.entries_eq_ok_iff.2 ⟨values, conditions, rfl⟩, css, ?_, ?_, fun inert => ?_⟩
  · intro declaration given
    obtain ⟨value, allowed⟩ := values declaration given
    obtain ⟨rule, made⟩ : ∃ rule, Item.ruleOf valid.style.format declaration = .ok rule :=
      ⟨_, map_eq_ok_iff.2 ⟨value, allowed, rfl⟩⟩
    exact ⟨rule, made, Rule.guarded_of_ruleOf (plain declaration given) made⟩
  · exact fun _ _ => Sheet.neutral_of_mem_plan conditions
  · have blocks := Sheet.inert_plan flat conditions plain inert
    have brackets := Sheet.brackets_generate flat written plain inert
    have balanced : Bracket.Balanced (Text.brackets compilation.css) :=
      brackets ▸ .flatMap fun entry mem => (blocks entry mem).balanced
    have count : (Text.brackets compilation.css).count .opening =
        compilation.ruleCount +
          (Sheet.plan valid.style compilation.records).countP Entry.isMedia := by
      rw [brackets, Entry.count_brackets blocks, Sheet.length_rules_plan values,
        Compilation.ruleCount]
    exact ⟨balanced, count, balanced.whole.trans count⟩

/-- A public comment and a rule with a pseudo-class and a media width. -/
def sampleTokens : List Token :=
  [.comment .shown "a /* b", .newline, .keyword "ADD", .property "animation", .variable "spin",
    .pseudoClass ":hover", .mediaValue "640px"]

/-- The records of the sample. -/
def sampleRecords : List Record :=
  [.comment "a /* b",
    .rule ⟨"animation", ["spin"], none, some ":hover", some "(min-width: 640px)", by simp⟩]

theorem source_balanced_media :
    let options : OptionTexts := { mode := "minimalistic", mobileFirst := true }
    ∃ compilation, options.layers = false ∧
      (Compile.source options .empty "//* a /* b\nADD animation spin:hover@640px").1 =
        .ok compilation ∧
      (∀ record ∈ compilation.records, record.Inert) ∧
      Bracket.Balanced (Text.brackets compilation.css) ∧
      ∃ lines, Sheet.entries ⟨.minimalistic, .minimalistic, false, true⟩ compilation.records =
          .ok lines ∧
        (Text.brackets compilation.css).count .opening =
          compilation.ruleCount + lines.countP Entry.isMedia := by
  intro options
  let valid : Options := ⟨⟨.minimalistic, .minimalistic, false, true⟩, [], ".lui"⟩
  have accepted : options.validate = .ok valid := rfl
  have read : Lexer.tokens "//* a /* b\nADD animation spin:hover@640px" = .ok sampleTokens := by
    decide +kernel
  have parsed : Program.parse .empty sampleTokens = (.ok sampleRecords, .empty) := rfl
  obtain ⟨css, written⟩ : ∃ css, Sheet.generate valid.style sampleRecords = .ok css := ⟨_, rfl⟩
  have compiled : (Compile.source options .empty "//* a /* b\nADD animation spin:hover@640px").1 =
      .ok ⟨css, sampleRecords, sampleTokens, [], []⟩ :=
    source_eq_ok_iff.2 ⟨valid, accepted,
      checked_eq_ok_iff.2 ⟨.empty, read, parsed, written, rfl, rfl⟩⟩
  have inert : ∀ record ∈ sampleRecords, record.Inert := by
    refine List.forall_mem_cons.2 ⟨?_, List.forall_mem_singleton.2 ?_⟩
    · exact Scans.of_code (by decide) rfl rfl
    · exact Scans.of_code (by decide) rfl rfl
  obtain ⟨checked, lines, same, made, -, -, -, blocks⟩ := source_balanced options _ _ rfl compiled
  obtain rfl : valid = checked := Except.ok.inj (accepted.symm.trans same)
  obtain ⟨balanced, count, -⟩ := blocks inert
  exact ⟨_, rfl, compiled, inert, balanced, lines, made, count⟩

/-- Without `Record.Inert` the braces need not be balanced: the end of a comment in its own text
leaves the rest to be read as CSS, and a brace in the argument of a pseudo-class is copied into the
selector. -/
theorem source_unbalanced :
    let options : OptionTexts := { mode := "minimalistic" }
    (∃ compilation, (Compile.source options .empty ("//* a */ " ++ ['}'])).1 = .ok compilation ∧
      compilation.css = "/* a */ " ++ ['}'] ++ " */" ∧
      ¬ Bracket.Balanced (Text.brackets compilation.css)) ∧
    ∃ compilation, (Compile.source options .empty
        ("ADD animation spin:not(" ++ ['}'] ++ ")")).1 = .ok compilation ∧
      compilation.css =
        ".a_spin_n:not(" ++ ['}'] ++ ")" ++ Text.braced "animation:spin" ∧
      ¬ Bracket.Balanced (Text.brackets compilation.css) := by
  intro options
  let style : Style := ⟨.minimalistic, .minimalistic, false, false⟩
  have accepted : options.validate = .ok ⟨style, [], ".lui"⟩ := rfl
  have comment : Lexer.tokens ("//* a */ " ++ ['}']) =
      .ok [.comment .shown ("a */ " ++ ['}'])] := by decide +kernel
  have selector : Lexer.tokens ("ADD animation spin:not(" ++ ['}'] ++ ")") = .ok
      [.keyword "ADD", .property "animation", .variable "spin",
        .pseudoClass (":not(" ++ ['}'] ++ ")")] := by
    decide +kernel
  have compiled {text css : Text} {tokens : List Token} {records : List Record}
      (read : Lexer.tokens text = .ok tokens)
      (parsed : Program.parse .empty tokens = (.ok records, .empty))
      (written : Sheet.generate style records = .ok css) :
      (Compile.source options .empty text).1 = .ok ⟨css, records, tokens, [], []⟩ :=
    source_eq_ok_iff.2 ⟨_, accepted, checked_eq_ok_iff.2 ⟨_, read, parsed, written, rfl, rfl⟩⟩
  refine ⟨⟨_, compiled comment rfl rfl, rfl, fun balanced => ?_⟩,
    _, compiled selector rfl rfl, rfl, fun balanced => ?_⟩
  · exact absurd balanced.whole (by decide)
  · exact absurd balanced.whole (by decide)

end UtilityCss.Compile
