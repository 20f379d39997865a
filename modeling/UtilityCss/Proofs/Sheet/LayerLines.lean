import UtilityCss.Proofs.Sheet.Composition
import UtilityCss.Proofs.Text.Brackets

/-!
# The lines that open and close layers

Where layers are kept, each start of a layer is written as a line that opens a block, each end as a
line that closes one, and the layers that stay open are closed after the last record.  Nothing else
opens or closes a layer (`Sheet.layerBrackets_plan`).  An end is written even where no layer is
open, so the lines are balanced exactly when the records never end more layers than they have
started (`Sheet.generate_layerLines`), and each end too many leaves one line that closes nothing.
-/

namespace UtilityCss

/-- Is this a line that opens or closes a layer? -/
def Entry.layerBracket? : Entry → Option Bracket
  | .openLayer _ _ => some .opening
  | .closeLayer _ => some .closing
  | _ => none

/-- Does the record start or end a layer? -/
def Record.layerBracket? : Record → Option Bracket
  | .layer _ .start => some .opening
  | .layer _ .stop => some .closing
  | _ => none

/-- The lines of a style sheet that open and close layers, in order. -/
def Entry.layerBrackets (lines : List Entry) : List Bracket := lines.filterMap Entry.layerBracket?

/-- The starts and ends of layers among records, in order. -/
def Record.layerBrackets (records : List Record) : List Bracket :=
  records.filterMap Record.layerBracket?

namespace Sheet

variable {style : Style} {records : List Record}

/-- `Record.openAfter` counts the open layers; as a `Bracket` each start and end does the same, so
that facts on brackets apply. -/
lemma foldl_openAfter_eq (records : List Record) (layers : Nat) :
    records.foldl Record.openAfter layers =
      (Record.layerBrackets records).foldl Bracket.openAfter layers := by
  induction records generalizing layers with
  | nil => rfl
  | cons record records ih =>
    cases record with
    | layer name edge => cases edge <;> exact ih _
    | rule | comment => exact ih _

lemma layerBrackets_along (kept : style.layers = true) (records : List Record) :
    Entry.layerBrackets (along (inPlace? style) records) = Record.layerBrackets records := by
  have own : ∀ before record,
      (inPlace? style before record).toList.flatMap (·.layerBracket?.toList) =
        record.layerBracket?.toList := by
    intro before record
    cases record with
    | comment text => rfl
    | layer name edge => cases edge <;> simp [inPlace?, kept, Entry.layerBracket?,
        Record.layerBracket?]
    | rule declaration =>
      cases (Item.ruleOf style.format declaration).toOption <;>
        by_cases plain : ClassName.present declaration.media = none <;>
        simp [inPlace?, plain, Entry.layerBracket?, Record.layerBracket?]
  rw [Entry.layerBrackets, Record.layerBrackets, List.filterMap_eq_flatMap_toList,
    List.filterMap_eq_flatMap_toList, flatMap_along own]

lemma layerBrackets_closing (style : Style) (records : List Record) :
    Entry.layerBrackets (closing style records) =
      List.replicate (depth style records) .closing := by
  rw [closing, Entry.layerBrackets, List.filterMap_map, List.eq_replicate_iff]
  simp [Function.comp_def, Entry.layerBracket?]

/-- The layer lines of the `plan` are those of the records, and then `closing` has one for each
layer that is still open. -/
theorem layerBrackets_plan (kept : style.layers = true) (records : List Record) :
    Entry.layerBrackets (plan style records) = Record.layerBrackets records ++
      List.replicate ((Record.layerBrackets records).foldl Bracket.openAfter 0) .closing := by
  have first : Entry.layerBrackets (preamble style records) = [] := by
    unfold preamble
    split <;> rfl
  have last : Entry.layerBrackets (mediaBlocks style records) = [] := by
    simp [mediaBlocks, Entry.layerBrackets, Entry.layerBracket?]
  have inside := layerBrackets_along kept records
  have closed := layerBrackets_closing style records
  rw [depth, if_pos kept, foldl_openAfter_eq] at closed
  simp only [Entry.layerBrackets] at first last inside closed
  rw [plan, Entry.layerBrackets, List.filterMap_append, List.filterMap_append,
    List.filterMap_append, first, inside, closed, last]
  simp

lemma closed_replicate (depth : Nat) :
    Bracket.unopened depth (List.replicate depth .closing) = 0 ∧
      (List.replicate depth Bracket.closing).foldl Bracket.openAfter depth = 0 := by
  induction depth with
  | zero => exact ⟨rfl, rfl⟩
  | succ depth ih => exact ih

/-- The lines that open and close layers are balanced exactly when no beginning of the records ends
more layers than it starts.  In any case each start is written as one opening line, and there is one
closing line too many for each end where no layer is open (`Bracket.unopened`). -/
theorem generate_layerLines (style : Style) (kept : style.layers = true) (records : List Record)
    (css : Text) (written : generate style records = .ok css) :
    ∃ lines, entries style records = .ok lines ∧ css = Entry.renderAll style.mode lines ∧
      (Bracket.Balanced (Entry.layerBrackets lines) ↔ ∀ before, before <+: records →
        (Record.layerBrackets before).count .closing ≤
          (Record.layerBrackets before).count .opening) ∧
      (Entry.layerBrackets lines).count .opening =
        (Record.layerBrackets records).count .opening ∧
      (Entry.layerBrackets lines).count .closing =
        (Entry.layerBrackets lines).count .opening +
          Bracket.unopened 0 (Record.layerBrackets records) ∧
      ∀ before, before <+: lines → (Entry.layerBrackets before).count .closing ≤
        (Entry.layerBrackets before).count .opening +
          Bracket.unopened 0 (Record.layerBrackets records) := by
  obtain ⟨accepted, valid, rfl⟩ := generate_eq_ok_iff.1 written
  have lines := layerBrackets_plan kept records
  have closed := closed_replicate ((Record.layerBrackets records).foldl Bracket.openAfter 0)
  have total := Bracket.count_closing_add 0 (Record.layerBrackets records)
  have surplus : Bracket.unopened 0 (Entry.layerBrackets (plan style records)) =
      Bracket.unopened 0 (Record.layerBrackets records) := by
    rw [lines, Bracket.unopened_append, closed.1, Nat.add_zero]
  refine ⟨plan style records, entries_eq_ok_iff.2 ⟨accepted, valid, rfl⟩, rfl, ?_, ?_, ?_, ?_⟩
  · rw [Bracket.balanced_iff, surplus, lines, List.foldl_append, closed.2,
      Bracket.unopened_eq_zero_iff, Record.layerBrackets]
    simp only [List.prefix_filterMap_iff, and_true, Nat.add_zero]
    constructor
    · intro bounded before h
      exact bounded _ ⟨before, h, rfl⟩
    · rintro bounded _ ⟨before, h, rfl⟩
      exact bounded before h
  · simp [lines, List.count_replicate]
  · simp only [lines, List.count_append, List.count_replicate, beq_self_eq_true, if_true]
    simp
    omega
  · intro before h
    have bound := Bracket.count_closing_le 0 (h.filterMap Entry.layerBracket?)
    rwa [Nat.add_zero, ← Entry.layerBrackets, ← Entry.layerBrackets, surplus] at bound

/-- An end closes the innermost layer, whatever its name, and `closing` closes the outer one
last. -/
theorem generate_layerLines_unclosed :
    let style : Style := ⟨.minimalistic, .standard, true, false⟩
    let records : List Record :=
      [.layer "a" .start, .layer "b" .start, .layer "a" .stop, .comment "x"]
    let css : Text := "@layer a, b;\n@layer a " ++
      Text.braced ("\n  @layer b " ++ Text.braced "\n  " ++ "\n  /* x */\n")
    style.layers = true ∧ generate style records = .ok css ∧
      ∃ lines, entries style records = .ok lines ∧ css = Entry.renderAll style.mode lines ∧
        Bracket.Balanced (Entry.layerBrackets lines) := by
  intro style records css
  have written : generate style records = .ok css := rfl
  obtain ⟨lines, made, text, balanced, -⟩ := generate_layerLines style rfl records css written
  refine ⟨rfl, written, lines, made, text, balanced.2 fun before h => ?_⟩
  have opened : Bracket.unopened 0 (Record.layerBrackets records) = 0 := rfl
  exact (Bracket.unopened_eq_zero_iff 0 _).1 opened _ (h.filterMap Record.layerBracket?)

/-- The end of a layer that was never started is a line that closes nothing, because `body` writes
it at depth zero. -/
theorem generate_strayEnd :
    let style : Style := ⟨.minimalistic, .standard, true, false⟩
    generate style [.layer "a" .stop] = .ok ("@layer a;\n" ++ ['}']) ∧
      ∃ lines, entries style [.layer "a" .stop] = .ok lines ∧
        ¬ Bracket.Balanced (Entry.layerBrackets lines) := by
  refine ⟨rfl, _, rfl, fun balanced => ?_⟩
  exact absurd balanced.whole (by decide)

end Sheet

end UtilityCss
