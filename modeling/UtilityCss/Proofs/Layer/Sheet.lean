import Mathlib.Data.List.Forall2
import UtilityCss.Proofs.Layer.Span
import UtilityCss.Proofs.Outcome
import UtilityCss.Sheet.Generate

/-!
# The style sheet for layers that do not overlap

Where records are a sequence of spans, so are their items (`Sheet.items_flatMap`).  The style sheet
then begins with the order of the layers, has one layer for each span, at the outermost level and
with the comments and rules of the span in it, and ends with the rules under media conditions
(`Sheet.entries_flatMap`).
-/

namespace UtilityCss

variable {style : Style} {first second : List Record} {rest : List Item}
  {spans : List (Span Record.layer)}

/-! ## Items -/

/-- The items of a span are those of its records. -/
structure Span.Written (style : Style) (span : Span Record.layer) (sheet : Span Item.layer) :
    Prop where
  name : sheet.name = span.name
  inner : Sheet.items style span.inner = .ok sheet.inner

lemma Span.map_name_of_written {sheets : List (Span Item.layer)}
    (written : List.Forall₂ (Span.Written style) spans sheets) :
    sheets.map Span.name = spans.map Span.name := by
  induction written with
  | nil => rfl
  | cons first _ ih => rw [List.map_cons, List.map_cons, first.name, ih]

/-- `Item.ofRecord` makes layers of nothing else, so the layers of `items` are where those of the
records are. -/
lemma Item.ofRecord_eq_layer {format : ClassNameFormat} {record : Record} {name : Text}
    {edge : Edge} (h : Item.ofRecord format record = .ok (.layer name edge)) :
    record = .layer name edge := by
  cases record with
  | comment text => simp [Item.ofRecord] at h
  | layer other end' => simpa [Item.ofRecord] using h
  | rule declaration =>
    rw [Item.ofRecord, map_eq_ok_iff] at h
    obtain ⟨block, -, h⟩ := h
    split at h <;> simp at h

namespace Sheet

lemma items_append_eq_ok (h : items style (first ++ second) = .ok rest) :
    ∃ before after, items style first = .ok before ∧ items style second = .ok after ∧
      rest = before ++ after := by
  rw [items, List.mapM_append] at h
  obtain ⟨before, here, h⟩ := bind_eq_ok_iff.1 h
  obtain ⟨after, there, h⟩ := bind_eq_ok_iff.1 h
  exact ⟨before, after, here, there, (Except.ok.inj h).symm⟩

lemma items_flat {span : Span Record.layer} (h : items style span.flat = .ok rest) :
    ∃ sheet, Span.Written style span sheet ∧ rest = sheet.flat := by
  rw [items, Span.flat, List.mapM_cons] at h
  obtain ⟨start, begins, h⟩ := bind_eq_ok_iff.1 h
  obtain ⟨others, there, h⟩ := bind_eq_ok_iff.1 h
  obtain rfl := Except.ok.inj h
  obtain ⟨inner, stop, inside, ends, rfl⟩ := items_append_eq_ok there
  have plain : ∀ name edge, .layer name edge ∉ inner := by
    intro name edge mem
    obtain ⟨record, found, made⟩ := exists_of_mem_mapM inside mem
    exact span.plain name edge (Item.ofRecord_eq_layer made ▸ found)
  refine ⟨⟨span.name, inner, plain⟩, ⟨rfl, inside⟩, ?_⟩
  obtain rfl := Except.ok.inj begins
  obtain rfl := Except.ok.inj ends
  rfl

/-- By induction on the spans: `items` works record by record (`items_append_eq_ok`), and keeps the
two layer records of a span in place (`items_flat`). -/
theorem items_flatMap (h : items style (spans.flatMap Span.flat) = .ok rest) :
    ∃ sheets, List.Forall₂ (Span.Written style) spans sheets ∧ rest = sheets.flatMap Span.flat := by
  induction spans generalizing rest with
  | nil =>
    obtain rfl := Except.ok.inj h
    exact ⟨[], .nil, rfl⟩
  | cons span spans ih =>
    rw [List.flatMap_cons] at h
    obtain ⟨before, after, here, there, rfl⟩ := items_append_eq_ok h
    obtain ⟨sheet, written, rfl⟩ := items_flat here
    obtain ⟨sheets, writtenAll, rfl⟩ := ih there
    exact ⟨sheet :: sheets, .cons written writtenAll, rfl⟩

end Sheet

/-! ## Entries -/

/-- The entry of an item inside a layer, if it is written there. -/
def Item.entry? (depth : Nat) : Item → Option Entry
  | .comment text => some (.comment depth text)
  | .rule block => some (.rule depth block)
  | .layer _ _ | .held _ _ => none

namespace Sheet

/-- A layer at the outermost level, with what is written inside. -/
def layerEntries (sheet : Span Item.layer) : List Entry :=
  .openLayer 0 sheet.name :: (sheet.inner.filterMap (Item.entry? 1) ++ [.closeLayer 0])

lemma body_append_of_plain {layers : Bool} {depth : Nat} {inner : List Item}
    (plain : ∀ name edge, .layer name edge ∉ inner) :
    body layers depth (inner ++ rest) =
      inner.filterMap (Item.entry? depth) ++ body layers depth rest := by
  induction inner with
  | nil => rfl
  | cons item inner ih =>
    have later := ih fun name edge mem => plain name edge (List.mem_cons_of_mem _ mem)
    cases item with
    | layer name edge => exact absurd List.mem_cons_self (plain name edge)
    | comment text => simp [body, Item.entry?, later]
    | rule block => simp [body, Item.entry?, later]
    | held condition block => simp [body, List.filterMap_cons, Item.entry?, later]

lemma body_flatMap (sheets : List (Span Item.layer)) :
    body true 0 (sheets.flatMap Span.flat) = sheets.flatMap layerEntries := by
  induction sheets with
  | nil => rfl
  | cons sheet sheets ih =>
    rw [List.flatMap_cons, List.flatMap_cons, ← ih, Span.flat]
    simp [body, layerEntries, body_append_of_plain sheet.plain]

/-- A span names its layer at its start and at its end, and `order` counts the name once. -/
lemma eraseDups_flatMap_pair (names : List Text) :
    (names.flatMap fun name => [name, name]).eraseDups = names.eraseDups := by
  match names with
  | [] => rfl
  | name :: names =>
    have others : (names.flatMap fun name => [name, name]).filter (fun other => !other == name) =
        (names.filter fun other => !other == name).flatMap fun name => [name, name] := by
      induction names with
      | nil => rfl
      | cons other names ih => by_cases same : other = name <;> simp [same, ih]
    rw [List.flatMap_cons, List.cons_append, List.cons_append, List.nil_append,
      List.eraseDups_cons, List.eraseDups_cons, List.filter_cons_of_neg (by simp), others,
      eraseDups_flatMap_pair]
termination_by names.length
decreasing_by
  have := List.length_filter_le (fun other => !other == name) names
  simp
  omega

lemma filterMap_layer?_flatMap (sheets : List (Span Item.layer)) :
    (sheets.flatMap Span.flat).filterMap Item.layer? =
      (sheets.map Span.name).flatMap fun name => [name, name] := by
  induction sheets with
  | nil => rfl
  | cons sheet sheets ih =>
    have inside : sheet.inner.filterMap Item.layer? = [] := by
      rw [List.filterMap_eq_nil_iff]
      intro item mem
      cases item with
      | layer name edge => exact absurd mem (sheet.plain name edge)
      | comment | rule | held => rfl
    rw [List.flatMap_cons, List.filterMap_append, ih, Span.flat]
    simp [inside, Item.layer?]

/-- `order` collects the names of all layer items; for spans these come in pairs, which
`eraseDups_flatMap_pair` takes together. -/
lemma order_flatMap (sheets : List (Span Item.layer)) :
    order true (sheets.flatMap Span.flat) =
      if sheets = [] then [] else [.layerOrder (sheets.map Span.name).eraseDups] := by
  rw [order, filterMap_layer?_flatMap, eraseDups_flatMap_pair]
  cases sheets with
  | nil => rfl
  | cons sheet sheets => simp [List.eraseDups_cons]

/-- `order_flatMap` and `body_flatMap` for the spans of `items_flatMap`; what is held back for media
blocks comes after all of them. -/
theorem entries_flatMap {entries : List Entry} (layered : style.layers = true)
    (h : Sheet.entries style (spans.flatMap Span.flat) = .ok entries) :
    ∃ sheets media, List.Forall₂ (Span.Written style) spans sheets ∧
      (∀ entry ∈ media, ∃ condition rules, entry = .media condition rules) ∧
      entries = (if spans = [] then [] else [.layerOrder (spans.map Span.name).eraseDups]) ++
        sheets.flatMap layerEntries ++ media := by
  obtain ⟨items, made, h⟩ := bind_eq_ok_iff.1 h
  obtain ⟨media, grouped, h⟩ := bind_eq_ok_iff.1 h
  obtain ⟨sheets, written, rfl⟩ := items_flatMap made
  obtain rfl := Except.ok.inj h
  have names := Span.map_name_of_written written
  have empty : sheets = [] ↔ spans = [] := by
    rw [← List.map_eq_nil_iff (f := Span.name), names, List.map_eq_nil_iff]
  refine ⟨sheets, media, written, ?_, ?_⟩
  · intro entry mem
    obtain ⟨group, -, written⟩ := exists_of_mem_mapM grouped mem
    unfold mediaEntry at written
    simp only at written
    split at written
    · exact ⟨_, _, (Except.ok.inj written).symm⟩
    · simp at written
  · simp only [layered, order_flatMap, body_flatMap, names, empty]

/-! ## Text -/

/-- The parts of the text that a layer at the outermost level is written as. -/
def layerTexts (mode : Mode) (sheet : Span Item.layer) : List Text :=
  ("@layer " ++ sheet.name ++ [' ', '{']) ::
    ((sheet.inner.filterMap (Item.entry? 1)).map (Entry.render mode) ++ [['}']])

/-- The part of the text that states the order of the layers, if there are any. -/
def orderTexts (names : List Text) : List Text :=
  if names = [] then [] else ["@layer " ++ Text.join ", " names.eraseDups ++ ";"]

lemma map_render_layerEntries (mode : Mode) (sheet : Span Item.layer) :
    (layerEntries sheet).map (Entry.render mode) = layerTexts mode sheet := by
  have flush : mode.indent 0 = [] := rfl
  unfold layerEntries layerTexts
  rw [List.map_cons, List.map_append, List.map_singleton]
  unfold Entry.render
  simp only [flush]
  rfl

/-- `entries_flatMap`, as a text: each `layerEntries` is rendered to its `layerTexts`. -/
lemma generate_flatMap {css : Text} (layered : style.layers = true)
    (h : generate style (spans.flatMap Span.flat) = .ok css) :
    ∃ (sheets : List (Span Item.layer)) (media : List Entry),
      List.Forall₂ (Span.Written style) spans sheets ∧
      (∀ entry ∈ media, ∃ condition rules, entry = .media condition rules) ∧
      css = Text.trim (Text.join style.mode.separator
        (orderTexts (spans.map Span.name) ++ sheets.flatMap (layerTexts style.mode) ++
          media.map (Entry.render style.mode))) := by
  rw [generate, map_eq_ok_iff] at h
  obtain ⟨entries, made, rfl⟩ := h
  obtain ⟨sheets, media, written, held, rfl⟩ := entries_flatMap layered made
  refine ⟨sheets, media, written, held, ?_⟩
  have order : (if spans = [] then [] else [.layerOrder (spans.map Span.name).eraseDups] :
      List Entry).map (Entry.render style.mode) = orderTexts (spans.map Span.name) := by
    unfold orderTexts
    cases spans with
    | nil => rfl
    | cons span spans => rfl
  rw [Entry.renderAll, List.map_append, List.map_append, order, List.map_flatMap]
  simp only [map_render_layerEntries]

end Sheet

end UtilityCss
