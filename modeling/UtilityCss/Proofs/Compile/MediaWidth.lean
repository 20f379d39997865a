import Mathlib.Data.Set.List
import UtilityCss.Proofs.Compile.Layers
import UtilityCss.Proofs.Media.Orientation
import UtilityCss.Proofs.Sheet.Composition

/-!
# Declared widths and emitted conditions

A line may declare a media width, as a text or by a variable.  What becomes of it is followed here
from the line to the style sheet: each declaration of a compilation comes from a line and stands
under the condition for the width of that line (`Program.exists_declares`), and the style sheet has
one block for each width (`Compile.checked_bounded`).

The condition of the block says exactly what was declared as long as the width does not mention the
lower bound: then it may be turned round along with the feature, and two widths may end up under the
same condition (`Compile.pipeline_renamedProperty`).
-/

namespace UtilityCss

/-! ## The width of a line -/

namespace MediaWidth

/-- The text of a width.  A variable that is not defined has none. -/
def text? (store : Store) : MediaWidth → Option Text
  | .literal width => some width
  | .variable name => store.get? name

/-- The width that a line declares. -/
def declared? (store : Store) (line : List Token) : Option Text :=
  (line.findSome? ofToken?).bind (text? store)

lemma condition_eq_map_text? (store : Store) (width : MediaWidth) :
    width.condition store = (width.text? store).map Media.condition := by
  cases width <;> rfl

end MediaWidth

variable {store final between : Store} {line tokens : List Token} {records : List Record}
  {declaration : Declaration}

namespace Statement

variable {effect : Effect}

/-- `Addition.media_of_read` and `MediaWidth.declared?` look for the same token of the line, and
`Addition.declaration` copies the condition, so that all rules of a line share its width. -/
lemma media_of_interpret (interpreted : interpret store line = .ok effect)
    (mem : .rule declaration ∈ effect.records) :
    declaration.media = (MediaWidth.declared? store line).map Media.condition := by
  obtain ⟨addition, names, property, added, -, -, rfl⟩ := exists_addition_of_mem interpreted mem
  obtain ⟨-, -, read⟩ := bind_eq_ok_iff.1 added
  have media := Addition.media_of_read read
  simp only [Addition.declaration, MediaWidth.declared?, media]
  cases line.findSome? MediaWidth.ofToken? with
  | none => rfl
  | some width => exact MediaWidth.condition_eq_map_text? store width

end Statement

/-! ## The widths of a program -/

namespace Program

/-- A declaration is made by a line of a program, and the line declares the width or none. -/
def Declares (store : Store) (tokens : List Token) (declaration : Declaration)
    (width : Option Text) : Prop :=
  ∃ before line after earlier between effect,
    Line.group tokens = before ++ line :: after ∧ run store before = (.ok earlier, between) ∧
      Statement.interpret between line = .ok effect ∧ .rule declaration ∈ effect.records ∧
      width = MediaWidth.declared? between line

/-- `run` threads the store through the lines, so that a record comes with the store `between` in
which its line was interpreted. -/
lemma exists_line_of_mem_run {lines : List (List Token)} {record : Record}
    (ran : run store lines = (.ok records, final)) (mem : record ∈ records) :
    ∃ before line after earlier between effect,
      lines = before ++ line :: after ∧ run store before = (.ok earlier, between) ∧
        Statement.interpret between line = .ok effect ∧ record ∈ effect.records := by
  induction lines generalizing store records with
  | nil =>
    obtain rfl := Except.ok.inj (Prod.mk.inj ran).1
    simp at mem
  | cons line lines ih =>
    obtain ⟨effect, rest, interpreted, later, rfl⟩ := run_cons_eq_ok ran
    rcases List.mem_append.1 mem with here | there
    · exact ⟨[], line, lines, [], store, effect, rfl, rfl, interpreted, here⟩
    · obtain ⟨before, other, after, earlier, between, found, rfl, start, added, made⟩ :=
        ih later there
      refine ⟨line :: before, other, after, effect.records ++ earlier, between, found, rfl, ?_,
        added, made⟩
      rw [run_cons_of_ok interpreted, start]
      rfl

/-- `exists_line_of_mem_run` gives the line, `media_of_interpret` its width; tidying the records of
`run` adds none. -/
theorem exists_declares (parsed : parse store tokens = (.ok records, final))
    (mem : .rule declaration ∈ records) :
    ∃ width, Declares store tokens declaration width ∧
      declaration.media = width.map Media.condition := by
  obtain ⟨all, ran, rfl⟩ := parse_eq_ok parsed
  obtain ⟨before, line, after, earlier, between, effect, lines, start, interpreted, made⟩ :=
    exists_line_of_mem_run ran (Record.tidy_subset all mem)
  exact ⟨_, ⟨before, line, after, earlier, between, effect, lines, start, interpreted, made, rfl⟩,
    Statement.media_of_interpret interpreted made⟩

end Program

/-! ## The style sheet -/

/-- How the widths that a program declares come out in its style sheet. -/
structure Compilation.Bounded (style : Style) (store : Store) (compilation : Compilation)
    (widths : List Text) : Prop where
  /-- Each declaration stands under the lower bound that its line declares, if it declares one. -/
  declared : ∀ declaration, .rule declaration ∈ compilation.records →
    ∃ width, Program.Declares store compilation.tokens declaration width ∧
      declaration.media = width.map (fun text => Media.bound true (Media.width text)) ∧
      ∀ text ∈ width, Media.width text ∈ widths
  /-- The widths are all declared. -/
  used : ∀ width ∈ widths, ∃ declaration text, .rule declaration ∈ compilation.records ∧
    Program.Declares store compilation.tokens declaration (some text) ∧ width = Media.width text
  distinct : widths.Nodup
  /-- The style sheet ends with one block for each width, which has the rules under that width. -/
  css : ∃ flow : List Entry, (∀ condition rules, .media condition rules ∉ flow) ∧
    compilation.css = Entry.renderAll style.mode (flow ++ widths.map fun width =>
      .media (Media.oriented style.mobileFirst (Media.bound true width))
        (Sheet.rulesUnder style (some (Media.bound true width)) compilation.records))
  /-- The condition of the block bounds the viewport by the width itself, except where the width
  mentions the lower bound and this is turned round. -/
  faithful : ∀ width ∈ widths,
    (Media.oriented style.mobileFirst (Media.bound true width) =
        Media.bound style.mobileFirst width ↔
      style.mobileFirst = true ∨ ¬ Media.minWidth <:+: width)
  /-- With the same exception, no two widths have the same condition. -/
  apart : ∀ width ∈ widths, ∀ other ∈ widths,
    style.mobileFirst = true ∨ (¬ Media.minWidth <:+: width ∧ ¬ Media.minWidth <:+: other) →
    Media.oriented style.mobileFirst (Media.bound true width) =
      Media.oriented style.mobileFirst (Media.bound true other) → width = other

namespace Compile

variable {options : Options} {source : Text} {compilation : Compilation}

lemma mem_conditions_iff {condition : Text} : condition ∈ Sheet.conditions records ↔
    ∃ declaration, .rule declaration ∈ records ∧
      ClassName.present declaration.media = some condition := by
  rw [Sheet.conditions, mem_firstSeen, List.mem_filterMap]
  constructor
  · rintro ⟨record, mem, found⟩
    cases record with
    | comment text => simp [Record.condition?] at found
    | layer name edge => simp [Record.condition?] at found
    | rule declaration => exact ⟨declaration, mem, found⟩
  · rintro ⟨declaration, mem, found⟩
    exact ⟨.rule declaration, mem, found⟩

/-- `Media.condition` is always a lower bound, `Media.bound true`; that the style may turn it round
is a matter of `Media.oriented`, later. -/
lemma exists_widths (parsed : Program.parse store tokens = (.ok records, final)) :
    ∃ widths : List Text, Sheet.conditions records = widths.map (Media.bound true) ∧
      ∀ width ∈ widths, ∃ declaration text, .rule declaration ∈ records ∧
        Program.Declares store tokens declaration (some text) ∧ width = Media.width text := by
  have bounds : ∀ condition ∈ Sheet.conditions records, ∃ declaration text,
      .rule declaration ∈ records ∧ Program.Declares store tokens declaration (some text) ∧
        condition = Media.bound true (Media.width text) := by
    intro condition mem
    obtain ⟨declaration, given, found⟩ := mem_conditions_iff.1 mem
    obtain ⟨width, declares, media⟩ := Program.exists_declares parsed given
    rw [media] at found
    cases width with
    | none => simp [ClassName.present] at found
    | some text =>
      exact ⟨declaration, text, given, declares,
        (Option.some.inj (Option.eq_some_of_filter_eq_some found)).symm⟩
  obtain ⟨widths, same⟩ : Sheet.conditions records ∈ Set.range (List.map (Media.bound true)) := by
    rw [Set.range_list_map]
    intro condition mem
    obtain ⟨-, text, -, -, rfl⟩ := bounds condition mem
    exact ⟨_, rfl⟩
  refine ⟨widths, same.symm, fun width mem => ?_⟩
  obtain ⟨declaration, text, given, declares, equal⟩ :=
    bounds _ (same ▸ List.mem_map_of_mem mem)
  exact ⟨declaration, text, given, declares, Media.bound_inj.1 equal⟩

/-- Every width that is declared is the bound of one media block (`Compilation.Bounded`), and the
rules of the lines that declare it are in that block.  That the bounds of different widths stay
different has one exception, which `Media.oriented_bound_eq_iff` states. -/
theorem checked_bounded (options : Options) (store : Store) (source : Text)
    (compilation : Compilation)
    (compiled : (checked options store source).1 = .ok compilation) :
    ∃ widths, compilation.Bounded options.style store widths := by
  obtain ⟨final, -, parsed, written, -, -⟩ := checked_eq_ok_iff.1 compiled
  obtain ⟨widths, conditions, used⟩ := exists_widths parsed
  refine ⟨widths, { used, declared := ?_, distinct := ?_, css := ?_, faithful := ?_, apart := ?_ }⟩
  · intro declaration mem
    obtain ⟨width, declares, media⟩ := Program.exists_declares parsed mem
    refine ⟨width, declares, media, fun text given => ?_⟩
    obtain rfl : width = some text := given
    have listed : Media.bound true (Media.width text) ∈ Sheet.conditions compilation.records := by
      refine mem_conditions_iff.2 ⟨declaration, mem, ?_⟩
      rw [media]
      exact Option.filter_eq_some_iff.2 ⟨rfl, by simpa using Media.bound_ne_nil true _⟩
    rw [conditions] at listed
    obtain ⟨other, mem, same⟩ := List.mem_map.1 listed
    exact Media.bound_inj.1 same ▸ mem
  · have once : (widths.map (Media.bound true)).Nodup := conditions ▸ nodup_firstSeen _
    exact once.of_map _
  · obtain ⟨-, -, css⟩ := Sheet.generate_eq_ok_iff.1 written
    refine ⟨Sheet.preamble options.style compilation.records ++
      along (Sheet.inPlace? options.style) compilation.records ++
      Sheet.closing options.style compilation.records, fun _ _ => Sheet.media_not_mem, ?_⟩
    rw [css, Sheet.plan, Sheet.mediaBlocks, conditions, List.map_map]
    rfl
  · exact fun _ _ => Media.oriented_bound_eq_iff
  · intro width _ other _ plain same
    have first := Media.oriented_bound_eq_iff.2 (plain.imp_right And.left)
    have second := Media.oriented_bound_eq_iff.2 (plain.imp_right And.right)
    exact Media.bound_inj.1 (first.symm.trans (same.trans second))

/-- A width that a variable gives, and one that mentions the lower bound. -/
def twoWidths : Text :=
  "VAR page = 400\nADD animation @" ++ Text.braced "page" ++
    " 1\nADD animation @var(--min-width) 2"

def twoWidthsTokens : List Token :=
  [.keyword "VAR", .variable "page", .equals, .value (.integer 400), .newline,
    .keyword "ADD", .property "animation", .mediaVariableRef "page", .value (.integer 1), .newline,
    .keyword "ADD", .property "animation", .mediaValue "var(--min-width)", .value (.integer 2)]

def twoWidthsRecords : List Record :=
  [.rule ⟨"animation", ["1"], none, none, some "(min-width: 400px)", by simp⟩,
    .rule ⟨"animation", ["2"], none, none, some "(min-width: var(--min-width))", by simp⟩]

lemma tokens_twoWidths : Lexer.tokens twoWidths = .ok twoWidthsTokens := by
  decide +kernel

theorem checked_bounded_twoWidths :
    let style : Style := ⟨.minimalistic, .minimalistic, false, false⟩
    ∃ compilation, (checked ⟨style, [], ".lui".toList⟩ .empty twoWidths).1 = .ok compilation ∧
      compilation.records = twoWidthsRecords ∧
      ∃ widths, compilation.Bounded style .empty widths := by
  intro style
  let final := Store.empty.bind "page" [⟨.integer 400, none⟩]
  have parsed : Program.parse .empty twoWidthsTokens = (.ok twoWidthsRecords, final) := rfl
  have made : Sheet.entries style twoWidthsRecords =
      .ok [.media "(max-width: 400px)" [⟨".a_1_m400", "animation", "1"⟩],
        .media "(max-width: var(--max-width))" [⟨".a_2_m", "animation", "2"⟩]] := by
    decide +kernel
  obtain ⟨css, written⟩ : ∃ css, Sheet.generate style twoWidthsRecords = .ok css :=
    ⟨_, map_eq_ok_iff.2 ⟨_, made, rfl⟩⟩
  let compilation : Compilation := ⟨css, twoWidthsRecords, twoWidthsTokens, final.all, []⟩
  have compiled : (checked ⟨style, [], ".lui".toList⟩ .empty twoWidths).1 = .ok compilation :=
    checked_eq_ok_iff.2 ⟨final, tokens_twoWidths, parsed, written, rfl, rfl⟩
  exact ⟨compilation, compiled, rfl, checked_bounded _ _ _ compilation compiled⟩

/-! ## A width that is not kept -/

def namedBoundTokens : List Token :=
  [.keyword "ADD", .property "width", .mediaValue "var(--min-width)", .value (.text "1px")]

def namedBoundRecords : List Record :=
  [.rule ⟨"width", ["1px"], none, none, some "(min-width: var(--min-width))", by simp⟩]

/-- The exception of `Media.oriented_bound_eq_iff`: `Text.replaceAll` in `Media.oriented` also meets
the custom property in a width, and turns it into another one. -/
theorem pipeline_renamedProperty :
    pipeline "ADD width @var(--min-width) 1px" "minimalistic" "minimalistic" false false =
      .ok ("@media (max-width: var(--max-width))" ++
        Text.braced (".w_1px_m" ++ Text.braced "width:1px")) := by
  have read : Lexer.tokens "ADD width @var(--min-width) 1px" = .ok namedBoundTokens := by
    decide +kernel
  have parsed : Program.parse .empty namedBoundTokens = (.ok namedBoundRecords, .empty) := by
    decide +kernel
  have named : Style.ofNames "minimalistic" "minimalistic" false false =
      .ok ⟨.minimalistic, .minimalistic, false, false⟩ := rfl
  have written : Sheet.entries ⟨.minimalistic, .minimalistic, false, false⟩ namedBoundRecords =
      .ok [.media "(max-width: var(--max-width))" [⟨".w_1px_m", "width", "1px"⟩]] := by
    decide +kernel
  simp only [pipeline, read, parsed, named, Sheet.generate, written, Except.map]
  decide

end Compile

end UtilityCss
