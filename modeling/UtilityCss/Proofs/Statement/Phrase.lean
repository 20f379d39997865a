import UtilityCss.Proofs.Outcome
import UtilityCss.Proofs.Store.Binding
import UtilityCss.Proofs.Text.Words
import UtilityCss.Statement.Program

/-!
# The text that the values of a line amount to

An addition and a definition read the same values, each in its own way: the one keeps texts, the
other keeps slots, in which numbers and units stand apart and the slots of other variables are
copied.  Both amount to one text, the values with single blanks between them, and that text can be
read off the tokens alone (`Phrase.read`): a value adds a part, a comma is set behind the last part,
and any other token adds nothing.

`Gathered.gather_phrase` says so of additions.  `Assignment.slotsFrom_phrase` says so of
definitions, as long as no variable is bound to nothing (`Store.Filled`) and splitting a literal
loses nothing of it (`Token.Faithful`).
-/

namespace UtilityCss

namespace Phrase

/-- The phrase of parts, of which the last comes first; there is none if there are no parts. -/
def ofParts (parts : List Text) : Option Text :=
  if parts = [] then none else some (Text.join [' '] parts.reverse)

/-- The phrase with one more part. -/
def add (phrase : Option Text) (part : Text) : Option Text :=
  some (phrase.elim part (· ++ ' ' :: part))

/-- The phrase with a comma behind its last part. -/
def close (phrase : Option Text) : Option Text := phrase.map (· ++ [','])

variable {parts more : List Text}

lemma ofParts_eq_none : ofParts parts = none ↔ parts = [] := by
  simp [ofParts]

lemma ofParts_append (given : more ≠ []) :
    ofParts (more.reverse ++ parts) = add (ofParts parts) (Text.join [' '] more) := by
  by_cases first : parts = []
  · simp [ofParts, add, first, given]
  · have before : parts.reverse ≠ [] := by simpa using first
    have both : more.reverse ++ parts ≠ [] := by simp [first]
    rw [ofParts, if_neg both, List.reverse_append, List.reverse_reverse,
      Text.join_append before given, ofParts, if_neg first]
    simp [add]

lemma ofParts_cons (part : Text) (parts : List Text) :
    ofParts (part :: parts) = add (ofParts parts) part := by
  have one : ofParts ([part].reverse ++ parts) = add (ofParts parts) (Text.join [' '] [part]) :=
    ofParts_append (List.cons_ne_nil part [])
  rwa [Text.join, List.intercalate_singleton] at one

lemma ofParts_comma (last : Text) (parts : List Text) :
    ofParts ((last ++ [',']) :: parts) = close (ofParts (last :: parts)) := by
  rw [ofParts_cons, ofParts_cons]
  cases ofParts parts with
  | none => rfl
  | some text => simp [add, close]

/-! ## What tokens say -/

/-- The part that a token adds, given the token after it. -/
def part? (store : Store) (following : Option Token) : Token → Option Text
  | .value literal => some (literal.toText ++ Gathered.unitOf following)
  | .variable name => some name
  | .variableRef name unit => (store.slots? name).map (Slot.renderAll · unit)
  | _ => none

/-- The phrase after one more token. -/
def step (store : Store) (phrase : Option Text) (token : Token) (following : Option Token) :
    Option Text :=
  match token with
  | .symbol .comma _ => close phrase
  | token => (part? store following token).elim phrase (add phrase)

/-- The phrase after more tokens. -/
def read (store : Store) (phrase : Option Text) : List Token → Option Text
  | [] => phrase
  | token :: tokens => read store (step store phrase token tokens.head?) tokens

end Phrase

/-! ## Additions -/

variable {store : Store} {tokens : List Token}

namespace Gathered

lemma step_phrase {gathered more : Gathered} {previous following : Option Token} {token : Token}
    (taken : gathered.step store previous token following = .ok more) :
    Phrase.ofParts more.values =
      Phrase.step store (Phrase.ofParts gathered.values) token following := by
  cases token with
  | value literal =>
    obtain rfl := Except.ok.inj taken
    exact Phrase.ofParts_cons _ _
  | «variable» name =>
    obtain rfl := Except.ok.inj taken
    exact Phrase.ofParts_cons _ _
  | variableRef name unit =>
    simp only [step] at taken
    cases bound : store.slots? name with
    | none => simp [bound] at taken
    | some slots =>
      rw [bound] at taken
      obtain rfl := Except.ok.inj taken
      simp only [Phrase.step, Phrase.part?, bound]
      exact Phrase.ofParts_cons _ _
  | valueType unit =>
    simp only [step] at taken
    split at taken
    · obtain rfl := Except.ok.inj taken
      rfl
    · simp at taken
  | symbol kind char =>
    cases kind with
    | comma =>
      simp only [step] at taken
      split at taken
      · simp at taken
      · rename_i last values shape
        obtain rfl := Except.ok.inj taken
        rw [shape]
        exact Phrase.ofParts_comma last values
    | _ =>
      obtain rfl := Except.ok.inj taken
      rfl
  | _ =>
    obtain rfl := Except.ok.inj taken
    rfl

/-- `step_phrase` along the loop.  Nothing is asked of the store or of the literals, since an
addition keeps its values as texts. -/
theorem gather_phrase {gathered more : Gathered} {previous : Option Token}
    (taken : gathered.gather store previous tokens = .ok more) :
    Phrase.ofParts more.values = Phrase.read store (Phrase.ofParts gathered.values) tokens := by
  induction tokens generalizing gathered previous with
  | nil =>
    obtain rfl := Except.ok.inj taken
    rfl
  | cons token tokens ih =>
    obtain ⟨next, here, later⟩ := bind_eq_ok_iff.1 taken
    rw [ih later, step_phrase here, Phrase.read]

end Gathered

/-! ## Definitions -/

/-- Splitting the literal into number and unit loses nothing of it, and if a unit follows it has
none of its own. -/
def Token.Faithful (following : Option Token) : Token → Prop
  | .value literal => ∀ slot, Assignment.literalSlot literal = .ok slot →
      slot.render none = literal.toText ∧
        ∀ unit, following = some (.valueType unit) → slot.unit = none
  | _ => True

namespace Assignment

/-- The parts that slots are rendered as. -/
def parts (slots : List Slot) : List Text := slots.map (·.render none)

lemma render_text (text : Text) : Slot.render ⟨.text text, none⟩ none = text := by
  simp [Slot.render, Scalar.toText]

/-- `Assignment.unitOf` replaces a unit that the literal has, where `Gathered.unitOf` would be
written behind it; without a unit of its own both do the same. -/
lemma render_unit {slot : Slot} {following : Option Token}
    (unitless : ∀ unit, following = some (.valueType unit) → slot.unit = none) :
    Slot.render ⟨slot.value, unitOf slot.unit following⟩ none =
      slot.render none ++ Gathered.unitOf following := by
  by_cases unit : ∃ unit, following = some (.valueType unit)
  · obtain ⟨unit, rfl⟩ := unit
    simp [Slot.render, unitOf, Gathered.unitOf, unitless unit rfl]
  · have own : unitOf slot.unit following = slot.unit := by
      unfold unitOf
      split
      · rename_i unit'
        exact absurd ⟨unit', rfl⟩ unit
      · rfl
    have none : Gathered.unitOf following = [] := by
      unfold Gathered.unitOf
      split
      · rename_i unit'
        exact absurd ⟨unit', rfl⟩ unit
      · rfl
    rw [own, none, List.append_nil]

/-- A unit travels with the copy and gives way to the one of a later reference, as `Slot.render` has
it; so a reference that copies and one that renders say the same. -/
lemma render_copy (given unit : Option Text) (slot : Slot) :
    (copy unit slot).render given = slot.render (given <|> unit) := by
  cases given <;> cases unit <;> simp [copy, Slot.render]

lemma step_phrase {slots more : List Slot} {token : Token} {following : Option Token}
    (filled : store.Filled) (faithful : token.Faithful following)
    (taken : step store slots token following = .ok more) :
    Phrase.ofParts (parts more) = Phrase.step store (Phrase.ofParts (parts slots)) token
      following := by
  cases token with
  | value literal =>
    obtain ⟨slot, split, rfl⟩ := map_eq_ok_iff.1 taken
    obtain ⟨whole, unitless⟩ := faithful slot split
    rw [parts, List.map_cons, render_unit unitless, whole]
    exact Phrase.ofParts_cons _ _
  | «variable» name =>
    obtain rfl := Except.ok.inj taken
    rw [parts, List.map_cons, render_text]
    exact Phrase.ofParts_cons _ _
  | variableRef name unit =>
    simp only [step] at taken
    cases bound : store.slots? name with
    | none => simp [bound] at taken
    | some copied =>
      rw [bound] at taken
      obtain rfl := Except.ok.inj taken
      have given : copied.map (·.render unit) ≠ [] := by simpa using filled name copied bound
      have rendered : parts ((copied.map (copy unit)).reverse ++ slots) =
          (copied.map (·.render unit)).reverse ++ parts slots := by
        simp [parts, render_copy, Function.comp_def]
      rw [rendered, Phrase.ofParts_append given]
      simp only [Phrase.step, Phrase.part?, bound]
      rfl
  | symbol kind char =>
    cases kind with
    | comma =>
      simp only [step] at taken
      split at taken
      · simp at taken
      · rename_i last slots
        obtain rfl := Except.ok.inj taken
        rw [parts, List.map_cons, render_text]
        exact Phrase.ofParts_comma _ _
    | _ =>
      obtain rfl := Except.ok.inj taken
      rfl
  | _ =>
    obtain rfl := Except.ok.inj taken
    rfl

/-- Every token of a list is faithful before the one that follows it. -/
def FaithfulAll : List Token → Prop
  | [] => True
  | token :: tokens => token.Faithful tokens.head? ∧ FaithfulAll tokens

/-- `step_phrase` along the loop.  `Store.Filled` is needed since a variable without slots would add
a part to an addition, if an empty one, and none to a definition. -/
theorem slotsFrom_phrase {slots more : List Slot} (filled : store.Filled)
    (faithful : FaithfulAll tokens) (taken : slotsFrom store slots tokens = .ok more) :
    Phrase.ofParts (parts more) = Phrase.read store (Phrase.ofParts (parts slots)) tokens := by
  induction tokens generalizing slots with
  | nil =>
    obtain rfl := Except.ok.inj taken
    rfl
  | cons token tokens ih =>
    obtain ⟨next, here, later⟩ := bind_eq_ok_iff.1 taken
    rw [ih faithful.2 later, step_phrase filled faithful.1 here, Phrase.read]

end Assignment

end UtilityCss
