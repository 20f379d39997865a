import UtilityCss.Proofs.Outcome
import UtilityCss.Statement.Program

/-!
# Statements in a larger store

A line that is accepted by a store is accepted by every store that binds the same names to the same
slots and perhaps more names (`Store.Extends`).  A reference has to be bound to be accepted, so it
gives the same text there; the one thing that a line may ask of an unbound name is a media width,
which is then left out.  So the line makes the same definition and the same records but for their
media conditions (`Statement.interpret_extends`).
-/

namespace UtilityCss

/-- Every binding of the store is one of the larger store. -/
def Store.Extends (store larger : Store) : Prop :=
  ∀ name slots, store.slots? name = some slots → larger.slots? name = some slots

/-- The record without the media condition of its rule. -/
def Record.unconditional : Record → Record
  | .rule declaration => .rule { declaration with media := none }
  | record => record

variable {store larger : Store} {line tokens : List Token}

/-! ## Values -/

lemma Gathered.step_extends {gathered more : Gathered} {previous following : Option Token}
    {token : Token} (h : store.Extends larger)
    (taken : gathered.step store previous token following = .ok more) :
    gathered.step larger previous token following = .ok more := by
  cases token with
  | variableRef name unit =>
    simp only [step] at taken ⊢
    cases bound : store.slots? name with
    | none => simp [bound] at taken
    | some slots =>
      rw [bound] at taken
      rw [h name slots bound]
      exact taken
  | symbol kind char => cases kind <;> exact taken
  | _ => exact taken

lemma Gathered.gather_extends {gathered more : Gathered} {previous : Option Token}
    (h : store.Extends larger) (taken : gathered.gather store previous tokens = .ok more) :
    gathered.gather larger previous tokens = .ok more := by
  induction tokens generalizing gathered previous with
  | nil => exact taken
  | cons token tokens ih =>
    obtain ⟨next, here, later⟩ := bind_eq_ok_iff.1 taken
    exact bind_eq_ok_iff.2 ⟨next, step_extends h here, ih later⟩

lemma Addition.read_extends {addition : Addition} (h : store.Extends larger)
    (taken : Addition.read store line = .ok addition) :
    Addition.read larger line = .ok addition := by
  obtain ⟨property, single, taken⟩ := bind_eq_ok_iff.1 taken
  obtain ⟨gathered, values, taken⟩ := bind_eq_ok_iff.1 taken
  exact bind_eq_ok_iff.2 ⟨property, single, bind_eq_ok_iff.2
    ⟨gathered, Gathered.gather_extends h values, taken⟩⟩

/-- `Addition.properties` never asks the store, so `larger` may be any store; only
`MediaWidth.condition` does, and `Record.unconditional` leaves that out. -/
lemma Addition.declarations_extends {addition : Addition} {declarations : List Declaration}
    (larger : Store) (taken : addition.declarations store = .ok declarations) :
    ∃ others, addition.declarations larger = .ok others ∧
      (others.map Record.rule).map Record.unconditional =
        (declarations.map Record.rule).map Record.unconditional := by
  obtain ⟨names, expanded, taken⟩ := bind_eq_ok_iff.1 taken
  obtain rfl := Except.ok.inj taken
  refine ⟨names.map (addition.declaration larger), bind_eq_ok_iff.2 ⟨names, expanded, rfl⟩, ?_⟩
  simp only [List.map_map]
  rfl

/-! ## Definitions -/

lemma Assignment.step_extends {slots more : List Slot} {token : Token}
    {following : Option Token} (h : store.Extends larger)
    (taken : Assignment.step store slots token following = .ok more) :
    Assignment.step larger slots token following = .ok more := by
  cases token with
  | variableRef name unit =>
    simp only [step] at taken ⊢
    cases bound : store.slots? name with
    | none => simp [bound] at taken
    | some copied =>
      rw [bound] at taken
      rw [h name copied bound]
      exact taken
  | symbol kind char => cases kind <;> exact taken
  | _ => exact taken

lemma Assignment.slotsFrom_extends {slots more : List Slot} (h : store.Extends larger)
    (taken : slotsFrom store slots tokens = .ok more) :
    slotsFrom larger slots tokens = .ok more := by
  induction tokens generalizing slots with
  | nil => exact taken
  | cons token tokens ih =>
    obtain ⟨next, here, later⟩ := bind_eq_ok_iff.1 taken
    exact bind_eq_ok_iff.2 ⟨next, step_extends h here, ih later⟩

lemma Assignment.read_extends {assignment : Assignment} (h : store.Extends larger)
    (taken : Assignment.read store line = .ok assignment) :
    Assignment.read larger line = .ok assignment := by
  obtain ⟨name, single, taken⟩ := bind_eq_ok_iff.1 taken
  obtain ⟨slots, gathered, taken⟩ := bind_eq_ok_iff.1 taken
  exact bind_eq_ok_iff.2 ⟨name, single, bind_eq_ok_iff.2
    ⟨slots, slotsFrom_extends h gathered, taken⟩⟩

/-! ## Lines -/

namespace Statement

variable {effect : Effect}

lemma addition_extends {addition : Addition} (h : store.Extends larger)
    (taken : Statement.addition store line = .ok addition) :
    Statement.addition larger line = .ok addition := by
  obtain ⟨_, known, taken⟩ := bind_eq_ok_iff.1 taken
  exact bind_eq_ok_iff.2 ⟨_, known, Addition.read_extends h taken⟩

lemma assignment_extends {assignment : Assignment} (h : store.Extends larger)
    (taken : Statement.assignment store line = .ok assignment) :
    Statement.assignment larger line = .ok assignment := by
  obtain ⟨_, known, taken⟩ := bind_eq_ok_iff.1 taken
  exact bind_eq_ok_iff.2 ⟨_, known, Assignment.read_extends h taken⟩

lemma effect_extends (h : store.Extends larger)
    (taken : Statement.effect store line = .ok effect) :
    ∃ records, Statement.effect larger line = .ok ⟨records, effect.assignment⟩ ∧
      records.map Record.unconditional = effect.records.map Record.unconditional := by
  obtain ⟨name, single, taken⟩ := bind_eq_ok_iff.1 taken
  split at taken
  · rename_i add
    obtain ⟨addition, read, taken⟩ := bind_eq_ok_iff.1 taken
    obtain ⟨declarations, made, taken⟩ := bind_eq_ok_iff.1 taken
    obtain rfl := Except.ok.inj taken
    obtain ⟨others, remade, same⟩ := Addition.declarations_extends larger made
    refine ⟨line.filterMap comment? ++ others.map .rule, bind_eq_ok_iff.2 ⟨name, single, ?_⟩, ?_⟩
    · rw [if_pos add]
      exact bind_eq_ok_iff.2 ⟨addition, addition_extends h read,
        bind_eq_ok_iff.2 ⟨others, remade, rfl⟩⟩
    · rw [List.map_append, List.map_append, same]
  rename_i noAdd
  split at taken
  · rename_i var
    obtain ⟨assignment, read, taken⟩ := bind_eq_ok_iff.1 taken
    obtain rfl := Except.ok.inj taken
    refine ⟨_, bind_eq_ok_iff.2 ⟨name, single, ?_⟩, rfl⟩
    rw [if_neg noAdd, if_pos var]
    exact bind_eq_ok_iff.2 ⟨assignment, assignment_extends h read, rfl⟩
  rename_i noVar
  split at taken
  · rename_i directive
    obtain rfl := Except.ok.inj taken
    refine ⟨_, bind_eq_ok_iff.2 ⟨name, single, ?_⟩, rfl⟩
    rw [if_neg noAdd, if_neg noVar, if_pos directive]
  · simp at taken

/-- Media conditions are excepted because an unbound width is no fault: `MediaWidth.condition` gives
none, and in the larger store there may be one. -/
theorem interpret_extends (h : store.Extends larger)
    (taken : Statement.interpret store line = .ok effect) :
    ∃ records, Statement.interpret larger line = .ok ⟨records, effect.assignment⟩ ∧
      records.map Record.unconditional = effect.records.map Record.unconditional := by
  unfold Statement.interpret at taken ⊢
  split at taken
  · obtain rfl := Except.ok.inj taken
    exact ⟨_, rfl, rfl⟩
  · obtain rfl := Except.ok.inj taken
    exact ⟨_, rfl, rfl⟩
  · obtain rfl := Except.ok.inj taken
    exact ⟨_, rfl, rfl⟩
  · exact effect_extends h taken

end Statement

end UtilityCss
