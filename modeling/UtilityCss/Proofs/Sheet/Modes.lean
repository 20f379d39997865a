import UtilityCss.Proofs.Outcome
import UtilityCss.Sheet.Generate

/-!
# Modes lay out, and do nothing else

What a style sheet says is left when its blanks are deleted, and then the semicolons before closing
braces (`Text.squeeze`).  The mode decides about nothing that is left: a sheet can be written in all
modes or in none, and squeezed it is the same in all of them (`Sheet.generate_layout`).

Squeezing does not go part by part, because a semicolon at the end of one part may meet a brace at
the start of the next, and a value or a comment may hold any of these characters.  So two texts are
compared in all surroundings (`Text.Alike`), which makes the comparison a congruence, and each entry
of a sheet is compared on its own.
-/

namespace UtilityCss

namespace Text

variable {text other more others : Text}

/-! ## What is left without layout -/

/-- The text without blanks. -/
def solid (text : Text) : Text := text.filter (!isBlank ·)

/-- The text without the semicolons that stand, in a row, directly before a closing brace. -/
def unterminated : Text → Text
  | [] => []
  | c :: rest =>
    if c = ';' ∧ (rest.dropWhile (· = ';')).head? = some '}' then unterminated rest
    else c :: unterminated rest

/-- The text without its layout. -/
def squeeze (text : Text) : Text := unterminated (solid text)

lemma solid_append (text other : Text) : solid (text ++ other) = solid text ++ solid other :=
  List.filter_append text other

lemma solid_eq_nil (blank : text.all isBlank = true) : solid text = [] := by
  rw [solid, List.filter_eq_nil_iff]
  intro c mem
  simpa using List.all_eq_true.1 blank c mem

lemma solid_trimStart (text : Text) : solid (trimStart text) = solid text := by
  induction text with
  | nil => rfl
  | cons c text ih =>
    by_cases blank : isBlank c
    · have dropped : solid (c :: text) = solid text := List.filter_cons_of_neg (by simpa)
      rw [trimStart, List.dropWhile_cons_of_pos blank, dropped]
      exact ih
    · rw [trimStart, List.dropWhile_cons_of_neg blank]

lemma solid_trim (text : Text) : solid (trim text) = solid text := by
  calc
    solid (trim text) = (solid (trimStart (trimStart text).reverse)).reverse := List.filter_reverse
    _ = (solid (trimStart text).reverse).reverse := by rw [solid_trimStart]
    _ = solid (trimStart text) := by rw [solid, List.filter_reverse, List.reverse_reverse, solid]
    _ = solid text := solid_trimStart text

/-- `unterminated` looks past a row of semicolons for a brace, and one more of them before the brace
makes no difference. -/
lemma head?_dropWhile_terminator (text other : Text) :
    ((text ++ ';' :: '}' :: other).dropWhile (· = ';')).head? =
      ((text ++ '}' :: other).dropWhile (· = ';')).head? := by
  induction text with
  | nil => rfl
  | cons c text ih =>
    rw [List.cons_append, List.cons_append]
    by_cases semicolon : c = ';'
    · rw [List.dropWhile_cons_of_pos (by simpa), List.dropWhile_cons_of_pos (by simpa), ih]
    · rw [List.dropWhile_cons_of_neg (by simpa), List.dropWhile_cons_of_neg (by simpa)]
      rfl

/-- A semicolon before a closing brace may be left out, also where others stand before it
(`head?_dropWhile_terminator`). -/
lemma unterminated_terminator (text other : Text) :
    unterminated (text ++ ';' :: '}' :: other) = unterminated (text ++ '}' :: other) := by
  induction text with
  | nil => rfl
  | cons c text ih =>
    rw [List.cons_append, List.cons_append, unterminated, unterminated,
      head?_dropWhile_terminator, ih]

/-! ## Texts that differ in layout only -/

/-- Wherever one text stands, the other may stand in its place. -/
def Alike (text other : Text) : Prop :=
  ∀ before after, squeeze (before ++ text ++ after) = squeeze (before ++ other ++ after)

namespace Alike

lemma refl (text : Text) : Alike text text := fun _ _ => rfl

lemma trans (h : Alike text other) (h' : Alike other more) : Alike text more :=
  fun before after => (h before after).trans (h' before after)

lemma squeeze_eq (h : Alike text other) : squeeze text = squeeze other := by
  simpa using h [] []

lemma append (h : Alike text other) (h' : Alike more others) :
    Alike (text ++ more) (other ++ others) := by
  intro before after
  calc
    squeeze (before ++ (text ++ more) ++ after) = squeeze (before ++ text ++ (more ++ after)) := by
      simp
    _ = squeeze (before ++ other ++ (more ++ after)) := h before (more ++ after)
    _ = squeeze (before ++ other ++ more ++ after) := by simp
    _ = squeeze (before ++ other ++ others ++ after) := h' (before ++ other) after
    _ = squeeze (before ++ (other ++ others) ++ after) := by simp

lemma of_solid (same : solid text = solid other) : Alike text other := by
  intro before after
  simp only [squeeze, solid_append, same]

/-- `Alike` compares texts by their solid characters, and a text of blanks has none. -/
lemma of_blank (blank : text.all isBlank = true) : Alike text [] :=
  of_solid (solid_eq_nil blank)

/-- Indentation and separators may be left out before another text. -/
lemma blank_append (blank : text.all isBlank = true) (other : Text) :
    Alike (text ++ other) other :=
  (of_blank blank).append (.refl other)

/-- The semicolon of a declaration that is the last of its rule, which `Mode.minimalistic` leaves
out. -/
lemma terminator (closing : solid text = [';', '}']) : Alike text ['}'] := by
  have brace : solid ['}'] = ['}'] := by decide
  intro before after
  simp only [squeeze, solid_append, closing, brace, List.append_assoc]
  exact unterminated_terminator (solid before) (solid after)

/-- Parts may be put together with blanks between them or with nothing, which is all that
`Mode.separator` changes. -/
lemma join {α : Type} {separator : Text} (blank : separator.all isBlank = true)
    {write plain : α → Text} (h : ∀ part, Alike (write part) (plain part)) (parts : List α) :
    Alike (Text.join separator (parts.map write)) (parts.flatMap plain) := by
  unfold Text.join
  induction parts with
  | nil => exact .refl []
  | cons part parts ih =>
    rw [List.flatMap_cons]
    cases parts with
    | nil => simpa using h part
    | cons next parts =>
      rw [List.map_cons, List.map_cons, List.intercalate_cons_cons, List.append_assoc]
      exact (h part).append ((blank_append blank _).trans ih)

end Alike

end Text

/-! ## The entries of a sheet -/

open Text (Alike)

lemma Mode.all_isBlank_indent (mode : Mode) (depth : Nat) :
    (mode.indent depth).all isBlank = true := by
  have step : mode.step.all isBlank = true := by cases mode <;> decide
  rw [List.all_eq_true] at step ⊢
  intro c mem
  obtain ⟨level, copy, mem⟩ := List.mem_flatten.1 mem
  exact step c (List.eq_of_mem_replicate copy ▸ mem)

lemma Mode.all_isBlank_separator (mode : Mode) : mode.separator.all isBlank = true := by
  cases mode <;> decide

/-- A rule without its layout. -/
def Rule.plain (rule : Rule) : Text :=
  rule.selector ++ (['{'] ++ (rule.property ++ ([':'] ++ (rule.value ++ ['}']))))

/-- An entry without its layout. -/
def Entry.plain : Entry → Text
  | .layerOrder names => "@layer " ++ Text.join ", " names ++ ";"
  | .comment _ text => "/* " ++ text ++ " */"
  | .openLayer _ name => "@layer " ++ name ++ [' ', '{']
  | .closeLayer _ => ['}']
  | .rule _ block => block.plain
  | .media condition rules =>
    "@media " ++ condition ++ ['{'] ++ rules.flatMap Rule.plain ++ ['}']

/-- The end of a rule that is set on lines of its own: `terminator`, with the line end and the
indentation between semicolon and brace. -/
lemma alike_ending (mode : Mode) (depth : Nat) :
    Alike (";\n" ++ mode.indent depth ++ ['}']) ['}'] := by
  have semicolon : Text.solid ";\n".toList = [';'] := by decide
  have brace : Text.solid ['}'] = ['}'] := by decide
  have indent := Text.solid_eq_nil (mode.all_isBlank_indent depth)
  apply Alike.terminator
  rw [Text.solid_append, Text.solid_append, semicolon, indent, brace]
  rfl

lemma Rule.alike_render (mode : Mode) (depth : Nat) (rule : Rule) :
    Alike (rule.render mode depth) rule.plain := by
  have indent := Text.solid_eq_nil (mode.all_isBlank_indent depth)
  by_cases compact : mode = .minimalistic
  · subst compact
    apply Alike.of_solid
    have whole : rule.render .minimalistic depth =
        Mode.indent .minimalistic depth ++ rule.plain := by
      simp [Rule.render, Rule.plain]
    rw [whole, Text.solid_append, indent, List.nil_append]
  · have step : Text.solid mode.step = [] := by cases mode <;> decide
    have opening : Text.solid [' ', '{', '\n'] = ['{'] := by decide
    have colon : Text.solid ": ".toList = [':'] := by decide
    have lines : rule.render mode depth =
        mode.indent depth ++ rule.selector ++ [' ', '{', '\n'] ++
          mode.indent depth ++ mode.step ++ rule.property ++ ": " ++ rule.value ++
          (";\n" ++ mode.indent depth ++ ['}']) := by
      cases mode <;> simp [Rule.render] at compact ⊢
    have plain : rule.plain =
        rule.selector ++ ['{'] ++ rule.property ++ [':'] ++ rule.value ++ ['}'] := by
      simp [Rule.plain]
    rw [lines, plain]
    refine Alike.append (.of_solid ?_) (alike_ending mode depth)
    have brace : Text.solid ['{'] = ['{'] := by decide
    have mark : Text.solid [':'] = [':'] := by decide
    simp only [Text.solid_append, indent, step, opening, colon, brace, mark, List.nil_append,
      List.append_nil]

lemma Entry.alike_render (mode : Mode) (entry : Entry) :
    Alike (entry.render mode) entry.plain := by
  cases entry with
  | layerOrder names => exact .refl _
  | comment depth text =>
    have indented : Entry.render mode (.comment depth text) =
        mode.indent depth ++ Entry.plain (.comment depth text) := by
      unfold Entry.render Entry.plain
      simp only [List.append_assoc]
    exact indented ▸ .blank_append (mode.all_isBlank_indent depth) _
  | openLayer depth name =>
    have indented : Entry.render mode (.openLayer depth name) =
        mode.indent depth ++ Entry.plain (.openLayer depth name) := by
      unfold Entry.render Entry.plain
      simp only [List.append_assoc]
    exact indented ▸ .blank_append (mode.all_isBlank_indent depth) _
  | closeLayer depth => exact .blank_append (mode.all_isBlank_indent depth) _
  | rule depth block => exact block.alike_render mode depth
  | media condition rules =>
    have content : Alike (Text.join mode.separator (rules.map (Rule.render mode 1)))
        (rules.flatMap Rule.plain) :=
      .join mode.all_isBlank_separator (Rule.alike_render mode 1) rules
    by_cases compact : mode = .minimalistic
    · subst compact
      exact .append (.append (.refl _) content) (.refl _)
    · have lines : Entry.render mode (.media condition rules) =
          "@media " ++ condition ++ [' ', '{', '\n'] ++
            Text.join mode.separator (rules.map (Rule.render mode 1)) ++ ['\n', '}'] := by
        cases mode with
        | minimalistic => exact absurd rfl compact
        | standard | pretty => rfl
      have opening : Alike [' ', '{', '\n'] ['{'] := .of_solid (by decide)
      have closing : Alike ['\n', '}'] ['}'] := .of_solid (by decide)
      rw [lines]
      exact .append (.append (.append (.refl _) opening) content) closing

/-! ## The whole sheet -/

lemma Entry.squeeze_renderAll (mode : Mode) (entries : List Entry) :
    Text.squeeze (Entry.renderAll mode entries) = Text.squeeze (entries.flatMap Entry.plain) := by
  have trimmed : Alike (Entry.renderAll mode entries)
      (Text.join mode.separator (entries.map (Entry.render mode))) :=
    .of_solid (Text.solid_trim _)
  have joined := Alike.join mode.all_isBlank_separator (Entry.alike_render mode) entries
  exact (trimmed.trans joined).squeeze_eq

lemma Mode.ofName_name (mode : Mode) : Mode.ofName mode.name = .ok mode := by
  cases mode <;> rfl

namespace Sheet

/-- The names of the three modes give the same fault for the style, or the same fault for the
records, or style sheets that differ in nothing but layout (`Text.squeeze`). -/
theorem generate_layout (format : Text) (layers mobileFirst : Bool) (records : List Record) :
    (∃ fault, ∀ mode : Mode, Style.ofNames format mode.name layers mobileFirst = .error fault) ∨
    (∃ fault, ∀ mode : Mode, ∃ style,
      Style.ofNames format mode.name layers mobileFirst = .ok style ∧
        generate style records = .error fault) ∨
    (∃ squeezed, ∀ mode : Mode, ∃ style css,
      Style.ofNames format mode.name layers mobileFirst = .ok style ∧
        generate style records = .ok css ∧ Text.squeeze css = squeezed) := by
  have named (mode : Mode) : Style.ofNames format mode.name layers mobileFirst =
      (ClassNameFormat.ofName format).map fun format => ⟨format, mode, layers, mobileFirst⟩ := by
    rw [Style.ofNames, Mode.ofName_name]
    cases ClassNameFormat.ofName format <;> rfl
  cases found : ClassNameFormat.ofName format with
  | error fault =>
    rw [found] at named
    exact .inl ⟨fault, named⟩
  | ok format =>
    rw [found] at named
    -- the entries of the sheet are settled before the mode is looked at
    cases made : entries ⟨format, .minimalistic, layers, mobileFirst⟩ records with
    | error fault =>
      have refused (mode : Mode) :
          generate ⟨format, mode, layers, mobileFirst⟩ records = .error fault :=
        congrArg (Except.map (Entry.renderAll mode)) made
      exact .inr (.inl ⟨fault, fun mode => ⟨_, named mode, refused mode⟩⟩)
    | ok sheet =>
      have written (mode : Mode) :
          generate ⟨format, mode, layers, mobileFirst⟩ records =
            .ok (Entry.renderAll mode sheet) :=
        congrArg (Except.map (Entry.renderAll mode)) made
      refine .inr (.inr ⟨Text.squeeze (sheet.flatMap Entry.plain), fun mode => ?_⟩)
      exact ⟨_, _, named mode, written mode, Entry.squeeze_renderAll mode sheet⟩

end Sheet

end UtilityCss
