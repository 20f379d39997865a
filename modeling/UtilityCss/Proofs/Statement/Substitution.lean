import UtilityCss.Proofs.Statement.Composition
import UtilityCss.Proofs.Statement.Phrase
import UtilityCss.Proofs.Store.Binding
import UtilityCss.Proofs.Token.Lines

/-!
# A variable stands for its values

Values may be written out where a rule is added, or bound to a variable and referred to there: the
rule has the same value (`Program.parse_substitution`).

Lines that begin with their keyword are reduced to the loops over their values
(`Statement.interpret_addition`, `Statement.interpret_definition`).  Both loops amount to the same
phrase.  That a definition accepts whatever an addition accepts
(`Assignment.slotsFrom_of_gather`) rests on it as well, because a comma needs a value before it.
-/

namespace UtilityCss

variable {store : Store} {values tokens : List Token} {property name : Text}

/-! ## Tokens of values -/

/-- A token that values are written with. -/
def Token.isValuePart : Token → Bool
  | .value _ | .variable _ | .variableRef _ _ | .valueType _ | .symbol .comma _ => true
  | _ => false

/-- Tokens in which a line finds values and nothing else. -/
structure OnlyValues (tokens : List Token) : Prop where
  keywords : tokens.filterMap Statement.keyword? = []
  comments : tokens.filterMap Statement.comment? = []
  unknowns : tokens.findSome? Statement.unknown? = none
  properties : tokens.filterMap Addition.property? = []
  identifiers : tokens.filterMap Addition.identifier? = []
  pseudoClasses : tokens.filterMap Addition.pseudoClass? = []
  widths : tokens.filterMap MediaWidth.ofToken? = []
  inline : ∀ token ∈ tokens, token.inline = true

lemma onlyValues (shape : ∀ token ∈ values, token.isValuePart = true) : OnlyValues values := by
  have blind : ∀ token ∈ values, Statement.keyword? token = none ∧
      Statement.comment? token = none ∧ Statement.unknown? token = none ∧
      Addition.property? token = none ∧ Addition.identifier? token = none ∧
      Addition.pseudoClass? token = none ∧ MediaWidth.ofToken? token = none ∧
      token.inline = true := by
    intro token mem
    have part := shape token mem
    cases token with
    | symbol kind char =>
      cases kind with
      | comma => exact ⟨rfl, rfl, rfl, rfl, rfl, rfl, rfl, rfl⟩
      | _ => simp [Token.isValuePart] at part
    | value | «variable» | variableRef | valueType =>
      exact ⟨rfl, rfl, rfl, rfl, rfl, rfl, rfl, rfl⟩
    | _ => simp [Token.isValuePart] at part
  simp only [forall_and] at blind
  obtain ⟨keyword, comment, unknown, property, identifier, pseudoClass, width, inline⟩ := blind
  exact ⟨List.filterMap_eq_nil_iff.2 keyword, List.filterMap_eq_nil_iff.2 comment,
    List.findSome?_eq_none_iff.2 unknown, List.filterMap_eq_nil_iff.2 property,
    List.filterMap_eq_nil_iff.2 identifier, List.filterMap_eq_nil_iff.2 pseudoClass,
    List.filterMap_eq_nil_iff.2 width, inline⟩

/-! ## Definitions -/

/-- An equivalence, so that the two ways to use it, for a definition that is accepted and for one
that has to be, share one proof. -/
lemma Assignment.read_definition {made : Assignment} :
    Assignment.read store (.keyword "VAR" :: .variable name :: .equals :: values) = .ok made ↔
      ∃ slots, slotsFrom store [] values = .ok slots ∧ slots ≠ [] ∧
        made = ⟨name, slots.reverse⟩ := by
  have parts : Assignment.split (.keyword "VAR" :: .variable name :: .equals :: values) =
      ([name], values) := rfl
  simp only [Assignment.read, parts, singleName, bind_eq_ok_iff, Except.ok.injEq, exists_eq_left']
  refine exists_congr fun slots => and_congr_right fun _ => ?_
  by_cases none : slots = []
  · simp [none]
  · simp [none, eq_comm]

namespace Statement

variable {line : List Token} {effect : Effect}

lemma effect_of_var (single : keyword line = .ok "VAR") :
    Statement.effect store line = .ok effect ↔
      ∃ made, assignment store line = .ok made ∧
        effect = ⟨line.filterMap comment?, some made⟩ := by
  have noAdd : "VAR".toList ≠ "ADD".toList := by decide
  simp only [Statement.effect, single, bind_eq_ok_iff, Except.ok.injEq, exists_eq_left', if_true,
    if_neg noAdd, @eq_comm _ effect]

theorem interpret_definition (keywords : values.filterMap keyword? = [])
    (comments : values.filterMap comment? = []) (unknowns : values.findSome? unknown? = none) :
    interpret store (.keyword "VAR" :: .variable name :: .equals :: values) = .ok effect ↔
      ∃ slots, Assignment.slotsFrom store [] values = .ok slots ∧ slots ≠ [] ∧
        effect = ⟨[], some ⟨name, slots.reverse⟩⟩ := by
  let line : List Token := .keyword "VAR" :: .variable name :: .equals :: values
  have single : keyword line = .ok "VAR" := by
    have all : line.filterMap keyword? = ["VAR".toList] := congrArg ("VAR".toList :: ·) keywords
    rw [keyword, all]
  have silent : line.filterMap comment? = [] := comments
  have read : assignment store line = Assignment.read store line := by
    have known : line.findSome? unknown? = none := unknowns
    rw [assignment, refuseUnknown, known]
    rfl
  change Statement.effect store line = .ok effect ↔ _
  rw [effect_of_var single, silent, read]
  constructor
  · rintro ⟨made, read, rfl⟩
    obtain ⟨slots, gathered, given, rfl⟩ := Assignment.read_definition.1 read
    exact ⟨slots, gathered, given, rfl⟩
  · rintro ⟨slots, gathered, given, rfl⟩
    exact ⟨_, Assignment.read_definition.2 ⟨slots, gathered, given, rfl⟩, rfl⟩

end Statement

/-! ## Additions -/

/-- `candidates` names the property alone, and `known` is what `expansion` asks of it. -/
lemma expansion_none (known : property ∈ Vocabulary.properties) :
    expansion property none = .ok [property] := by
  simp [expansion, candidates, known, bind, Except.bind]

/-- `OnlyValues` says that no other part of the line is found among the values, so that
`Addition.read` comes down to `Gathered.gather`. -/
lemma Addition.read_addition {made : Addition} (only : OnlyValues values) :
    Addition.read store (.keyword "ADD" :: .property property :: values) = .ok made ↔
      ∃ gathered, Gathered.empty.gather store (some (.property property)) values = .ok gathered ∧
        ∃ given : gathered.values ≠ [], made =
          { base := property, identifiers := [], values := gathered.values.reverse
            optionalName := gathered.name?, pseudoClass := none, media := none
            values_ne_nil := by simpa using given } := by
  let line : List Token := .keyword "ADD" :: .property property :: values
  have single : singleProperty line = .ok property := by
    have all : line.filterMap property? = [property] := congrArg (property :: ·) only.properties
    rw [singleProperty, all]
  have identifiers : line.filterMap identifier? = [] := only.identifiers
  have pseudoClasses : line.filterMap pseudoClass? = [] := only.pseudoClasses
  have widths : line.filterMap MediaWidth.ofToken? = [] := only.widths
  have gather : Gathered.empty.gather store none line =
      Gathered.empty.gather store (some (.property property)) values := rfl
  change Addition.read store line = _ ↔ _
  simp only [Addition.read, single, gather, identifiers, pseudoClasses, widths, atMostOne,
    bind_eq_ok_iff, Except.ok.injEq, exists_eq_left']
  refine exists_congr fun gathered => and_congr_right fun _ => ?_
  by_cases given : gathered.values = []
  · simp [given]
  · simp [given, bind, Except.bind, eq_comm]

namespace Statement

variable {line : List Token} {effect : Effect}

lemma effect_of_add (single : keyword line = .ok "ADD") :
    Statement.effect store line = .ok effect ↔
      ∃ made declarations, addition store line = .ok made ∧
        made.declarations store = .ok declarations ∧
        effect = ⟨line.filterMap comment? ++ declarations.map .rule, none⟩ := by
  simp only [Statement.effect, single, bind_eq_ok_iff, Except.ok.injEq, exists_eq_left', if_true,
    exists_and_left, @eq_comm _ effect]

theorem interpret_addition (only : OnlyValues values) (known : property ∈ Vocabulary.properties) :
    interpret store (.keyword "ADD" :: .property property :: values) = .ok effect ↔
      ∃ gathered, Gathered.empty.gather store (some (.property property)) values = .ok gathered ∧
        ∃ given : gathered.values ≠ [], effect =
          ⟨[.rule ⟨property, gathered.values.reverse, gathered.name?, none, none,
            by simpa using given⟩], none⟩ := by
  let line : List Token := .keyword "ADD" :: .property property :: values
  have single : keyword line = .ok "ADD" := by
    have all : line.filterMap keyword? = ["ADD".toList] :=
      congrArg ("ADD".toList :: ·) only.keywords
    rw [keyword, all]
  have silent : line.filterMap comment? = [] := only.comments
  have read : addition store line = Addition.read store line := by
    have known : line.findSome? unknown? = none := only.unknowns
    rw [addition, refuseUnknown, known]
    rfl
  have declared {made : Addition} (base : made.base = property) (bare : made.identifiers = []) :
      made.declarations store = .ok [made.declaration store property] := by
    rw [Addition.declarations, Addition.properties, if_pos bare, base, expansion_none known]
    rfl
  change Statement.effect store line = .ok effect ↔ _
  rw [effect_of_add single, silent, read]
  constructor
  · rintro ⟨made, declarations, read, all, rfl⟩
    obtain ⟨gathered, taken, given, rfl⟩ := (Addition.read_addition only).1 read
    obtain rfl := Except.ok.inj (all.symm.trans (declared rfl rfl))
    exact ⟨gathered, taken, given, rfl⟩
  · rintro ⟨gathered, taken, given, rfl⟩
    exact ⟨_, _, (Addition.read_addition only).2 ⟨gathered, taken, given, rfl⟩, declared rfl rfl,
      rfl⟩

end Statement

/-! ## One loop follows the other -/

namespace Assignment

/-- A literal, a reference and a comma can be refused.  For a comma both loops ask for a value
before it, which is where `same` is used: phrases agree on whether there is one
(`Phrase.ofParts_eq_none`). -/
lemma step_of_gathered {gathered more : Gathered} {slots : List Slot} {token : Token}
    {previous following : Option Token}
    (same : Phrase.ofParts (parts slots) = Phrase.ofParts gathered.values)
    (split : ∀ literal, token = .value literal → ∃ slot, literalSlot literal = .ok slot)
    (taken : gathered.step store previous token following = .ok more) :
    ∃ next, step store slots token following = .ok next := by
  cases token with
  | value literal =>
    obtain ⟨slot, read⟩ := split literal rfl
    exact ⟨_, map_eq_ok_iff.2 ⟨slot, read, rfl⟩⟩
  | variableRef name unit =>
    simp only [Gathered.step] at taken
    cases bound : store.slots? name with
    | none => simp [bound] at taken
    | some copied => exact ⟨(copied.map (copy unit)).reverse ++ slots, by simp only [step, bound]⟩
  | symbol kind char =>
    cases kind with
    | comma =>
      cases slots with
      | nil =>
        have none : gathered.values = [] := Phrase.ofParts_eq_none.1 same.symm
        simp [Gathered.step, none] at taken
      | cons last slots => exact ⟨_, rfl⟩
    | _ => exact ⟨_, rfl⟩
  | _ => exact ⟨_, rfl⟩

theorem slotsFrom_of_gather {gathered more : Gathered} {slots : List Slot}
    {previous : Option Token} (filled : store.Filled) (faithful : FaithfulAll tokens)
    (split : ∀ literal, .value literal ∈ tokens → ∃ slot, literalSlot literal = .ok slot)
    (same : Phrase.ofParts (parts slots) = Phrase.ofParts gathered.values)
    (taken : gathered.gather store previous tokens = .ok more) :
    ∃ next, slotsFrom store slots tokens = .ok next ∧
      Phrase.ofParts (parts next) = Phrase.ofParts more.values := by
  have accepted : ∃ next, slotsFrom store slots tokens = .ok next := by
    induction tokens generalizing gathered slots previous with
    | nil => exact ⟨slots, rfl⟩
    | cons token tokens ih =>
      obtain ⟨between, here, later⟩ := bind_eq_ok_iff.1 taken
      obtain ⟨next, step⟩ := step_of_gathered same
        (fun literal shape => split literal (shape ▸ List.mem_cons_self)) here
      have again : Phrase.ofParts (parts next) = Phrase.ofParts between.values := by
        rw [step_phrase filled faithful.1 step, Gathered.step_phrase here, same]
      obtain ⟨last, rest⟩ := ih faithful.2
        (fun literal mem => split literal (List.mem_cons_of_mem token mem)) again later
      exact ⟨last, bind_eq_ok_iff.2 ⟨next, step, rest⟩⟩
  obtain ⟨next, ran⟩ := accepted
  refine ⟨next, ran, ?_⟩
  rw [slotsFrom_phrase filled faithful ran, Gathered.gather_phrase taken, same]

/-- `Assignment.literalSlot` reads texts with `Slot.read` and keeps numbers as they are. -/
lemma exists_literalSlot (literal : Scalar)
    (plain : ∀ text, literal = .text text →
      ∃ slot, Slot.read text = .ok slot ∧ slot.render none = text) :
    ∃ slot, literalSlot literal = .ok slot ∧ slot.render none = literal.toText := by
  cases literal with
  | text text =>
    obtain ⟨slot, read, whole⟩ := plain text rfl
    exact ⟨slot, literalSlot_text.2 read, whole⟩
  | integer value => exact ⟨⟨.integer value, none⟩, rfl, by simp [Slot.render]⟩
  | decimal written => exact ⟨⟨.decimal written, none⟩, rfl, by simp [Slot.render]⟩

/-- `FaithfulAll` asks what follows each literal; here it is put as two conditions on the list as a
whole, in which units are seen as neighbours. -/
lemma faithfulAll_of_plain
    (plain : ∀ text, .value (.text text) ∈ values →
      ∃ slot, Slot.read text = .ok slot ∧ slot.render none = text)
    (unitless : ∀ literal unit, [.value literal, .valueType unit] <:+: values →
      ∃ slot, literalSlot literal = .ok slot ∧ slot.unit = none) : FaithfulAll values := by
  induction values with
  | nil => trivial
  | cons token values ih =>
    refine ⟨?_, ih (fun text mem => plain text (List.mem_cons_of_mem token mem))
      fun literal unit inside =>
        unitless literal unit (inside.trans (List.suffix_cons _ _).isInfix)⟩
    cases token with
    | value literal =>
      intro slot split
      constructor
      · obtain ⟨other, again, whole⟩ := exists_literalSlot literal
          fun text shape => plain text (shape ▸ List.mem_cons_self)
        obtain rfl := Except.ok.inj (split.symm.trans again)
        exact whole
      · intro unit follows
        obtain ⟨rest, rfl⟩ := List.head?_eq_some_iff.1 follows
        obtain ⟨other, again, bare⟩ := unitless literal unit
          (List.prefix_append [Token.value literal, .valueType unit] rest).isInfix
        obtain rfl := Except.ok.inj (split.symm.trans again)
        exact bare
    | _ => trivial

end Assignment

/-! ## The law -/

namespace Program

variable {records : List Record} {final : Store}

lemma parse_definition (keywords : values.filterMap Statement.keyword? = [])
    (comments : values.filterMap Statement.comment? = [])
    (unknowns : values.findSome? Statement.unknown? = none)
    (inline : ∀ token ∈ values, token.inline = true) :
    parse store (.keyword "VAR" :: .variable name :: .equals :: values) = (.ok records, final) ↔
      ∃ slots, Assignment.slotsFrom store [] values = .ok slots ∧ slots ≠ [] ∧
        records = [] ∧ final = store.bind name slots.reverse := by
  have single : Line.group (.keyword "VAR" :: .variable name :: .equals :: values) =
      [.keyword "VAR" :: .variable name :: .equals :: values] :=
    Line.group_inline (List.cons_ne_nil _ _) (List.forall_mem_cons.2
      ⟨rfl, List.forall_mem_cons.2 ⟨rfl, List.forall_mem_cons.2 ⟨rfl, inline⟩⟩⟩)
  simp only [parse_line_eq_ok single, Statement.interpret_definition keywords comments unknowns]
  constructor
  · rintro ⟨_, ⟨slots, ran, given, rfl⟩, rfl, rfl⟩
    exact ⟨slots, ran, given, rfl, rfl⟩
  · rintro ⟨slots, ran, given, rfl, rfl⟩
    exact ⟨_, ⟨slots, ran, given, rfl⟩, rfl, rfl⟩

lemma parse_addition (only : OnlyValues values) (known : property ∈ Vocabulary.properties) :
    parse store (.keyword "ADD" :: .property property :: values) = (.ok records, final) ↔
      ∃ gathered, Gathered.empty.gather store (some (.property property)) values = .ok gathered ∧
        ∃ given : gathered.values ≠ [], final = store ∧ records =
          [.rule ⟨property, gathered.values.reverse, gathered.name?, none, none,
            by simpa using given⟩] := by
  have single : Line.group (.keyword "ADD" :: .property property :: values) =
      [.keyword "ADD" :: .property property :: values] :=
    Line.group_inline (List.cons_ne_nil _ _)
      (List.forall_mem_cons.2 ⟨rfl, List.forall_mem_cons.2 ⟨rfl, only.inline⟩⟩)
  simp only [parse_line_eq_ok single, Statement.interpret_addition only known]
  constructor
  · rintro ⟨_, ⟨gathered, taken, given, rfl⟩, rfl, rfl⟩
    exact ⟨gathered, taken, given, rfl, rfl⟩
  · rintro ⟨gathered, taken, given, rfl, rfl⟩
    exact ⟨_, ⟨gathered, taken, given, rfl⟩, rfl, rfl⟩

/-- Where a property can be given values, the values can be bound to any name instead, and a
reference to that name gives the property the same value (`Assignment.slotsFrom_of_gather`).  The
conditions on literals are those under which a definition keeps what is written
(`Assignment.FaithfulAll`). -/
theorem parse_substitution (filled : store.Filled) (known : property ∈ Vocabulary.properties)
    (name : Text) (shape : ∀ token ∈ values, token.isValuePart = true)
    (plain : ∀ text, .value (.text text) ∈ values →
      ∃ slot, Slot.read text = .ok slot ∧ slot.render none = text)
    (unitless : ∀ literal unit, [.value literal, .valueType unit] <:+: values →
      ∃ slot, Assignment.literalSlot literal = .ok slot ∧ slot.unit = none)
    (accepted : parse store (.keyword "ADD" :: .property property :: values) =
      (.ok records, final)) :
    ∃ direct through bound, records = [.rule direct] ∧
      parse store (.keyword "VAR" :: .variable name :: .equals :: values) = (.ok [], bound) ∧
      parse bound [.keyword "ADD", .property property, .variableRef name none] =
        (.ok [.rule through], bound) ∧
      direct.property = property ∧ through.property = property ∧
      through.joined = direct.joined := by
  have only := onlyValues shape
  obtain ⟨gathered, taken, given, -, rfl⟩ := (parse_addition only known).1 accepted
  have split : ∀ literal, .value literal ∈ values →
      ∃ slot, Assignment.literalSlot literal = .ok slot := by
    intro literal mem
    obtain ⟨slot, read, -⟩ := Assignment.exists_literalSlot literal
      fun text shape => plain text (shape ▸ mem)
    exact ⟨slot, read⟩
  have start : Phrase.ofParts (Assignment.parts []) = Phrase.ofParts Gathered.empty.values := rfl
  obtain ⟨slots, ran, same⟩ := Assignment.slotsFrom_of_gather filled
    (Assignment.faithfulAll_of_plain plain unitless) split start taken
  have bindable : slots ≠ [] := by
    rintro rfl
    exact given (Phrase.ofParts_eq_none.1 same.symm)
  have text : Slot.renderAll slots.reverse none = Text.join [' '] gathered.values.reverse := by
    have rendered : Assignment.parts slots ≠ [] := by simpa [Assignment.parts] using bindable
    rw [Phrase.ofParts, if_neg rendered, Phrase.ofParts, if_neg given, Option.some.injEq] at same
    rw [← same, Slot.renderAll, Assignment.parts, List.map_reverse]
    rfl
  let bound := store.bind name slots.reverse
  let reference : Gathered := ⟨[Slot.renderAll slots.reverse none], [name], false⟩
  have refers : Gathered.empty.gather bound (some (.property property))
      [.variableRef name none] = .ok reference := by
    have own : bound.slots? name = some slots.reverse := by simp [bound, Store.slots?_bind]
    simp only [Gathered.gather, Gathered.step, own]
    rfl
  refine ⟨_, ⟨property, [Slot.renderAll slots.reverse none], reference.name?, none, none, by simp⟩,
    bound, rfl, ?_, ?_, rfl, rfl, ?_⟩
  · exact (parse_definition only.keywords only.comments only.unknowns only.inline).2
      ⟨slots, ran, bindable, rfl, rfl⟩
  · exact (parse_addition (onlyValues (by simp [Token.isValuePart])) known).2
      ⟨reference, refers, List.cons_ne_nil _ _, rfl, rfl⟩
  · rw [Declaration.joined, Text.join, List.intercalate_singleton]
    exact text

/-! ## A name that is bound anew to a list with itself in it -/

def twoGaps : Store := ⟨[("gap", [⟨.integer 1, some "px"⟩, ⟨.text "2,", none⟩])]⟩

/-- A reference to two slots with a unit of its own, a percentage, a measure and a word. -/
def gapList : List Token :=
  [.variableRef "gap" (some "em"), .symbol .comma [], .value (.integer 50), .valueType "%",
    .symbol .comma [], .value (.text "10px"), .variable "wide"]

theorem parse_substitution_gapList :
    ∃ records, twoGaps.Filled ∧ (∀ token ∈ gapList, token.isValuePart = true) ∧
      parse twoGaps (.keyword "ADD" :: .property "animation" :: gapList) =
        (.ok records, twoGaps) ∧
      ∃ direct through bound, records = [.rule direct] ∧
        parse twoGaps (.keyword "VAR" :: .variable "gap" :: .equals :: gapList) =
          (.ok [], bound) ∧
        parse bound [.keyword "ADD", .property "animation", .variableRef "gap" none] =
          (.ok [.rule through], bound) ∧
        direct.property = "animation".toList ∧ through.property = "animation".toList ∧
        through.joined = direct.joined := by
  have filled : twoGaps.Filled := Store.filled_empty.bind "gap" (List.cons_ne_nil _ _)
  have shape : ∀ token ∈ gapList, token.isValuePart = true := by
    simp [gapList, Token.isValuePart]
  have plain : ∀ text, .value (.text text) ∈ gapList →
      ∃ slot, Slot.read text = .ok slot ∧ slot.render none = text := by
    intro text mem
    obtain rfl : text = "10px".toList := by simpa [gapList] using mem
    exact ⟨⟨.integer 10, some "px"⟩, rfl, rfl⟩
  have unitless : ∀ literal unit, [.value literal, .valueType unit] <:+: gapList →
      ∃ slot, Assignment.literalSlot literal = .ok slot ∧ slot.unit = none := by
    intro literal unit inside
    obtain ⟨rfl, -⟩ : literal = .integer 50 ∧ unit = "%".toList := by
      simpa [gapList, List.infix_cons_iff] using inside
    exact ⟨⟨.integer 50, none⟩, rfl, rfl⟩
  have known : "animation".toList ∈ Vocabulary.properties := by decide
  have accepted : parse twoGaps (.keyword "ADD" :: .property "animation" :: gapList) =
      (.ok [.rule ⟨"animation", ["1em 2,em,", "50%,", "10px", "wide"], none, none, none, by simp⟩],
        twoGaps) := rfl
  exact ⟨_, filled, shape, accepted,
    parse_substitution filled known "gap" shape plain unitless accepted⟩

end Program

end UtilityCss
