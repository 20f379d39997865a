import UtilityCss.Proofs.Sheet.ClassNames
import UtilityCss.Proofs.Sheet.Composition
import UtilityCss.Proofs.Sheet.Modes
import UtilityCss.Proofs.Sheet.Validation

/-!
# The blocks of a style sheet

A rule is a block, and so are the rules under a media condition.  Nothing else opens or closes a
block as long as the texts in between are neutral.  Class names and values are, because they are
made of what declarations say (`Rule.guarded_of_ruleOf`), and so is every media condition that is
let in (`Media.neutral_of_isValid`).  Comments and pseudo-classes are copied as they are; if they
are inert where they stand (`Record.Inert`), the brackets of the style sheet are those of its blocks
(`Sheet.brackets_generate`).
-/

namespace UtilityCss

open Text (Neutral Scans isNeutral_of_class)

variable {text : Text}

lemma Text.neutral_of_isBlank (blank : text.all isBlank = true) : Neutral text := fun c mem =>
  isNeutral_of_class (List.all_eq_true.1 blank c mem) rfl

/-! ## Rules -/

/-- The characters of a rule are neutral, but for the given end of its selector. -/
structure Rule.Guarded (rule : Rule) (pseudo : Text) : Prop where
  selector : ∃ name, rule.selector = name ++ pseudo ∧ Neutral name
  property : Neutral rule.property
  value : Neutral rule.value

theorem Rule.guarded_of_ruleOf {format : ClassNameFormat} {declaration : Declaration} {rule : Rule}
    (plain : declaration.Plain) (made : Item.ruleOf format declaration = .ok rule) :
    rule.Guarded (Item.pseudo declaration) := by
  obtain ⟨value, valid, rfl⟩ := map_eq_ok_iff.1 made
  have joined : Neutral (Text.trim declaration.joined) :=
    (Text.Neutral.join (.of_all rfl) fun value mem => (plain.values value mem).neutral).of_subset
      fun _ => Text.mem_of_mem_trim
  refine ⟨⟨_, rfl, (ClassName.neutral_name plain).cons rfl⟩, ?_, ?_⟩
  · exact fun c mem => isNeutral_of_class (ClassName.isNameCharacter_of_isSteady
      (ClassName.isSteady_of_mem_properties plain.property c mem)) rfl
  · rcases Value.eq_of_validate valid with rfl | rfl
    · exact joined
    · exact joined.append (.of_all rfl)

/-- The rule can be written without opening or closing anything but its own block. -/
structure Rule.Inert (rule : Rule) : Prop where
  selector : Scans rule.selector []
  property : Neutral rule.property
  value : Neutral rule.value

lemma Rule.Guarded.inert {rule : Rule} {pseudo : Text} (guarded : rule.Guarded pseudo)
    (inert : Scans pseudo []) : rule.Inert := by
  obtain ⟨name, selector, neutral⟩ := guarded.selector
  refine ⟨?_, guarded.property, guarded.value⟩
  rw [selector]
  exact (Scans.of_neutral neutral).append inert

lemma Mode.neutral_indent (mode : Mode) (depth : Nat) : Neutral (mode.indent depth) :=
  Text.neutral_of_isBlank (mode.all_isBlank_indent depth)

lemma Mode.neutral_separator (mode : Mode) : Neutral mode.separator :=
  Text.neutral_of_isBlank mode.all_isBlank_separator

lemma Mode.neutral_step (mode : Mode) : Neutral mode.step := by
  cases mode <;> exact .of_all rfl

/-- A rule is one block: all that `Rule.render` adds to the neutral parts of the rule is one pair of
braces, in every `Mode`. -/
lemma Rule.Inert.scans_render {rule : Rule} (inert : rule.Inert) (mode : Mode) (depth : Nat) :
    Scans (rule.render mode depth) [.opening, .closing] := by
  have indent := Scans.of_neutral (mode.neutral_indent depth)
  have step := Scans.of_neutral mode.neutral_step
  have property := Scans.of_neutral inert.property
  have value := Scans.of_neutral inert.value
  have start := indent.append inert.selector
  have colon : Scans ":" [] := .of_neutral (.of_all rfl)
  have opening : Scans [' ', '{', '\n'] [.opening] := .of_code (by decide) rfl rfl
  have spaced : Scans ": " [] := .of_neutral (.of_all rfl)
  have ending : Scans ";\n" [] := .of_neutral (.of_all rfl)
  have indented := ((((((start.append opening).append indent).append step).append property).append
    spaced).append value).append ending
  cases mode with
  | minimalistic =>
    exact ((((start.append .opening).append property).append colon).append value).append .closing
  | standard => exact (indented.append indent).append .closing
  | pretty => exact (indented.append indent).append .closing

/-- `Media.isValid` lets in a few classes of characters only (`Media.isPart_of_isValid`), and no
bracket is among them. -/
theorem Media.neutral_of_isValid (valid : Media.isValid text = true) : Neutral text := fun c mem =>
  isNeutral_of_class (Media.isPart_of_isValid valid c mem) rfl

/-! ## Entries -/

namespace Entry

/-- The brackets that an entry adds. -/
def brackets : Entry → List Bracket
  | .openLayer _ _ => [.opening]
  | .closeLayer _ => [.closing]
  | .rule _ _ => [.opening, .closing]
  | .media _ rules => .opening :: (rules.flatMap (fun _ => [.opening, .closing]) ++ [.closing])
  | .layerOrder _ | .comment _ _ => []

/-- Is the entry a block under a media condition? -/
def isMedia : Entry → Bool
  | .media _ _ => true
  | _ => false

/-- The entry is a comment or a block, and the texts in it open and close nothing. -/
def Inert : Entry → Prop
  | .comment _ text => Scans ("/* " ++ text ++ " */") []
  | .rule _ block => block.Inert
  | .media condition rules => Neutral condition ∧ ∀ rule ∈ rules, rule.Inert
  | _ => False

variable {entry : Entry} {entries : List Entry}

lemma Inert.scans_render (inert : entry.Inert) (mode : Mode) :
    Scans (entry.render mode) entry.brackets := by
  cases entry with
  | comment depth text =>
    have whole := (Scans.of_neutral (mode.neutral_indent depth)).append inert
    rw [← List.append_assoc, ← List.append_assoc] at whole
    exact whole
  | rule depth block => exact Rule.Inert.scans_render inert mode depth
  | media condition rules =>
    obtain ⟨neutral, inside⟩ := inert
    have content : Scans (Text.join mode.separator (rules.map (Rule.render mode 1)))
        (rules.flatMap fun _ => [.opening, .closing]) :=
      .join mode.neutral_separator fun rule mem => (inside rule mem).scans_render mode 1
    have start : Scans ("@media " ++ condition) [] :=
      .of_neutral (Text.Neutral.append (.of_all rfl) neutral)
    have opening : Scans [' ', '{', '\n'] [.opening] := .of_code (by decide) rfl rfl
    have closing : Scans ['\n', '}'] [.closing] := .of_code (by decide) rfl rfl
    cases mode with
    | minimalistic => exact ((start.append .opening).append content).append .closing
    | standard => exact ((start.append opening).append content).append closing
    | pretty => exact ((start.append opening).append content).append closing
  | layerOrder | openLayer | closeLayer => exact inert.elim

lemma Inert.balanced (inert : entry.Inert) : Bracket.Balanced entry.brackets := by
  have block : Bracket.Balanced [.opening, .closing] := Bracket.Balanced.nil.enclosed
  cases entry with
  | comment depth text => exact .nil
  | rule depth rule => exact block
  | media condition rules => exact (Bracket.Balanced.flatMap fun _ _ => block).enclosed
  | layerOrder | openLayer | closeLayer => exact inert.elim

/-- Each rule and each media condition is one block, by `Entry.brackets`; a media block counts
itself and the rules in it. -/
lemma count_brackets (inert : ∀ entry ∈ entries, entry.Inert) :
    (entries.flatMap brackets).count .opening =
      (entries.flatMap Entry.rules).length + entries.countP isMedia := by
  induction entries with
  | nil => rfl
  | cons entry entries ih =>
    obtain ⟨here, later⟩ := List.forall_mem_cons.1 inert
    have own : entry.brackets.count .opening =
        entry.rules.length + if entry.isMedia then 1 else 0 := by
      cases entry with
      | comment | rule => rfl
      | media condition rules =>
        simp [brackets, Entry.rules, isMedia, List.count_flatMap, Function.comp_def]
      | layerOrder | openLayer | closeLayer => exact here.elim
    rw [List.flatMap_cons, List.count_append, ih later, own, List.flatMap_cons, List.length_append,
      List.countP_cons]
    omega

end Entry

/-! ## The whole style sheet -/

/-- What is copied from the record into the style sheet opens and closes nothing there. -/
def Record.Inert : Record → Prop
  | .comment text => Scans ("/* " ++ text ++ " */") []
  | .rule declaration => Scans (Item.pseudo declaration) []
  | .layer _ _ => True

namespace Sheet

variable {style : Style} {records : List Record} {css : Text}

lemma exists_of_mem_rule? {format : ClassNameFormat} {found : Option Text × Rule}
    (mem : found ∈ records.filterMap (Record.rule? format)) :
    ∃ declaration, .rule declaration ∈ records ∧
      Item.ruleOf format declaration = .ok found.2 := by
  obtain ⟨record, given, made⟩ := List.mem_filterMap.1 mem
  cases record with
  | comment text => simp [Record.rule?] at made
  | layer name edge => simp [Record.rule?] at made
  | rule declaration =>
    obtain ⟨rule, written, rfl⟩ := Option.map_eq_some_iff.1 made
    exact ⟨declaration, given, toOption_eq_some_iff.1 written⟩

lemma exists_of_mem_rulesUnder {condition : Option Text} {block : Rule}
    (mem : block ∈ rulesUnder style condition records) :
    ∃ declaration, .rule declaration ∈ records ∧
      Item.ruleOf style.format declaration = .ok block := by
  obtain ⟨found, listed, rfl⟩ := List.mem_map.1 mem
  exact exists_of_mem_rule? (List.mem_of_mem_filter listed)

/-- A condition that stands in the style sheet has been let in by `Media.isValid`. -/
lemma neutral_of_mem_plan {condition : Text} {rules : List Rule}
    (valid : ConditionsValid style records) (mem : .media condition rules ∈ plan style records) :
    Neutral condition := by
  have notPlaced : .media condition rules ∉ along (inPlace? style) records := by
    intro placed
    obtain ⟨before, record, -, found⟩ := exists_of_mem_along placed
    unfold inPlace? at found
    repeat' split at found
    all_goals simp at found
  have noOrder : .media condition rules ∉ preamble style records := by
    unfold preamble
    split <;> simp
  have noEnd : .media condition rules ∉ closing style records := by simp [closing]
  simp only [plan, List.mem_append, noOrder, notPlaced, noEnd, or_false, false_or] at mem
  obtain ⟨declared, listed, same⟩ := List.mem_map.1 mem
  obtain ⟨rfl, -⟩ := Entry.media.inj same
  exact Media.neutral_of_isValid (valid declared listed)

/-- Without layers, `Sheet.plan` consists of comments, rules and media blocks, and these are inert
if what they copy from the records is. -/
lemma inert_plan (flat : style.layers = false) (valid : ConditionsValid style records)
    (plain : ∀ declaration, .rule declaration ∈ records → declaration.Plain)
    (inert : ∀ record ∈ records, record.Inert) : ∀ entry ∈ plan style records, entry.Inert := by
  have block {declaration : Declaration} {rule : Rule} (given : .rule declaration ∈ records)
      (made : Item.ruleOf style.format declaration = .ok rule) : rule.Inert :=
    (Rule.guarded_of_ruleOf (plain declaration given) made).inert
      (inert (.rule declaration) given)
  have start : preamble style records = [] := by simp [preamble, flat]
  have closed : closing style records = [] := by simp [closing, depth, flat]
  intro entry mem
  rw [plan, start, closed, List.nil_append, List.append_nil] at mem
  rcases List.mem_append.1 mem with placed | held
  · obtain ⟨before, record, given, found⟩ := exists_of_mem_along placed
    cases record with
    | comment text =>
      obtain rfl := Option.some.inj found
      exact inert _ given
    | layer name edge => cases edge <;> simp [inPlace?, flat] at found
    | rule declaration =>
      simp only [inPlace?] at found
      split at found
      · obtain ⟨rule, made, rfl⟩ := Option.map_eq_some_iff.1 found
        exact block given (toOption_eq_some_iff.1 made)
      · simp at found
  · obtain ⟨condition, listed, rfl⟩ := List.mem_map.1 held
    refine ⟨Media.neutral_of_isValid (valid condition listed), fun rule mem => ?_⟩
    obtain ⟨declaration, given, made⟩ := exists_of_mem_rulesUnder mem
    exact block given made

lemma length_rules_plan (accepted : Record.Accepted records) :
    ((plan style records).flatMap Entry.rules).length = (records.filter Record.isRule).length := by
  rw [(flatMap_rules_plan style records).length_eq, List.length_map]
  induction records with
  | nil => rfl
  | cons record records ih =>
    have later := ih fun declaration mem => accepted declaration (List.mem_cons_of_mem _ mem)
    cases record with
    | comment text => exact later
    | layer name edge => exact later
    | rule declaration =>
      obtain ⟨value, valid⟩ := accepted declaration List.mem_cons_self
      have made : ∃ found, Record.rule? style.format (.rule declaration) = some found := by
        simp [Record.rule?, Item.ruleOf, valid, Except.map, Except.toOption]
      obtain ⟨found, made⟩ := made
      rw [List.filterMap_cons_some made, List.length_cons, later,
        List.filter_cons_of_pos (by rfl), List.length_cons]

/-- `Text.brackets` reads the text of the style sheet, `Entry.brackets` its entries; inert entries
can be read one after the other (`Text.Scans`). -/
theorem brackets_generate (flat : style.layers = false) (written : generate style records = .ok css)
    (plain : ∀ declaration, .rule declaration ∈ records → declaration.Plain)
    (inert : ∀ record ∈ records, record.Inert) :
    Text.brackets css = (plan style records).flatMap Entry.brackets := by
  obtain ⟨-, valid, rfl⟩ := generate_eq_ok_iff.1 written
  have entries := inert_plan flat valid plain inert
  rw [Entry.renderAll, Text.brackets_trim]
  exact (Scans.join style.mode.neutral_separator
    fun entry mem => (entries entry mem).scans_render style.mode) .code rfl |>.1

end Sheet

end UtilityCss
