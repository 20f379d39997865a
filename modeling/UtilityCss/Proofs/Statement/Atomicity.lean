import UtilityCss.Proofs.Statement.Composition
import UtilityCss.Proofs.Store.Binding

/-!
# What a program does to the store

A line either defines a variable or leaves the store alone, and a line that is refused leaves it
alone too.  So the store after a program is the one before it, changed by the definitions among the
lines before the first refusal, in order (`Program.Executed`).  Which lines these are can be seen
from their keywords (`Statement.isDefinition`), and each of them changes the binding of the name
that it declares and nothing else (`Store.Sets`).
-/

namespace UtilityCss

/-- One name is bound to slots, in its place or as a new last name, and nothing else changes. -/
structure Store.Sets (store : Store) (name : Text) (slots : List Slot) (after : Store) : Prop where
  slots : ∀ asked, after.slots? asked = if asked = name then some slots else store.slots? asked
  names : after.names = if name ∈ store.names then store.names else store.names ++ [name]

lemma Assignment.sets_apply (assignment : Assignment) (store : Store) :
    store.Sets assignment.name assignment.slots (assignment.apply store) where
  slots := Store.slots?_bind store assignment.name assignment.slots
  names := Store.names_bind store assignment.name assignment.slots

/-! ## Lines -/

namespace Statement

variable {store : Store} {line : List Token} {effect : Effect}

/-- Does the line define a variable?  A line that begins with a private comment says nothing. -/
def isDefinition : List Token → Bool
  | .layer _ _ :: _ => false
  | .comment .hidden _ :: _ => false
  | line => line.filterMap keyword? = ["VAR".toList]

/-- The store after a line that defines a variable. -/
def define (store : Store) (line : List Token) : Store :=
  match Assignment.read store line with
  | .ok assignment => assignment.apply store
  | .error _ => store

lemma keyword_eq_ok {name : Text} (h : keyword line = .ok name) :
    line.filterMap keyword? = [name] := by
  unfold keyword at h
  split at h
  · simp at h
  · rename_i only
    rw [only, Except.ok.inj h]
  · simp at h

/-- `effect_cases` with the branch told by `keyword?` alone, which is what `isDefinition` looks
at. -/
lemma assignment_of_effect (taken : Statement.effect store line = .ok effect) :
    (line.filterMap keyword? = ["VAR".toList] ∧ ∃ assignment,
      Assignment.read store line = .ok assignment ∧ effect.assignment = some assignment) ∨
    (line.filterMap keyword? ≠ ["VAR".toList] ∧ effect.assignment = none) := by
  rcases effect_cases taken with
    ⟨_, _, single, -, -, rfl⟩ | ⟨made, single, given, rfl⟩ | ⟨name, single, other, rfl⟩
  · exact .inr ⟨by rw [keyword_eq_ok single]; decide, rfl⟩
  · obtain ⟨_, -, read⟩ := bind_eq_ok_iff.1 given
    exact .inl ⟨keyword_eq_ok single, made, read, rfl⟩
  · refine .inr ⟨?_, rfl⟩
    rw [keyword_eq_ok single]
    rcases other with rfl | rfl <;> decide

lemma assignment_of_interpret (interpreted : interpret store line = .ok effect) :
    (isDefinition line = true ∧ ∃ assignment,
      Assignment.read store line = .ok assignment ∧ effect.assignment = some assignment) ∨
    (isDefinition line = false ∧ effect.assignment = none) := by
  unfold interpret at interpreted
  split at interpreted
  · obtain rfl := Except.ok.inj interpreted
    exact .inr ⟨rfl, rfl⟩
  · obtain rfl := Except.ok.inj interpreted
    exact .inr ⟨rfl, rfl⟩
  · obtain rfl := Except.ok.inj interpreted
    exact .inr ⟨rfl, rfl⟩
  · rename_i noMarker noHidden noShown
    have keyed : isDefinition line = decide (line.filterMap keyword? = ["VAR".toList]) := by
      unfold isDefinition
      split
      · exact absurd rfl (noMarker _ _ _)
      · exact absurd rfl (noHidden _ _)
      · rfl
    rw [keyed, decide_eq_true_eq, decide_eq_false_iff_not]
    exact assignment_of_effect interpreted

/-- With this the store no longer depends on the effect, and a run on the store is the fold
`Program.defined`. -/
lemma store_of_interpret (interpreted : interpret store line = .ok effect) :
    effect.store store = if isDefinition line then define store line else store := by
  unfold Effect.store define
  rcases assignment_of_interpret interpreted with ⟨defines, made, read, same⟩ | ⟨other, same⟩
  · rw [same, defines, read, if_pos rfl]
  · rw [same, other]
    rfl

/-- `Assignment.split` gives the name from the tokens, so that a reader of the line knows what
`define` changes without a store. -/
lemma sets_of_interpret (interpreted : interpret store line = .ok effect)
    (defines : isDefinition line = true) :
    ∃ name slots, (Assignment.split line).1 = [name] ∧ slots ≠ [] ∧
      store.Sets name slots (define store line) := by
  rcases assignment_of_interpret interpreted with ⟨-, assignment, read, -⟩ | ⟨other, -⟩
  · obtain ⟨declared, given⟩ := Assignment.declared_of_read read
    refine ⟨assignment.name, assignment.slots, declared, given, ?_⟩
    rw [define, read]
    exact assignment.sets_apply store
  · exact absurd defines (by simp [other])

end Statement

/-! ## Programs -/

namespace Program

variable {store final : Store} {line : List Token} {executed pending rest : List (List Token)}
  {effect : Effect} {fault : StatementFault} {result : Except StatementFault (List Record)}

/-- The store after the definitions among the lines, in order. -/
def defined (store : Store) (lines : List (List Token)) : Store :=
  (lines.filter Statement.isDefinition).foldl Statement.define store

/-- How far lines are executed, and what becomes of the store. -/
structure Executed (store : Store) (executed pending : List (List Token))
    (result : Except StatementFault (List Record)) (final : Store) : Prop where
  /-- Each of the executed lines is accepted by the store that the definitions before it leave, and
  if it is a definition itself, it sets the one name that it declares. -/
  accepted : ∀ before line after, executed = before ++ line :: after →
    (∃ effect, Statement.interpret (defined store before) line = .ok effect) ∧
      (Statement.isDefinition line = true → ∃ name slots, (Assignment.split line).1 = [name] ∧
        slots ≠ [] ∧ (defined store before).Sets name slots (defined store (before ++ [line])))
  /-- The lines are executed to their end, or up to one that the store then refuses. -/
  stopped : (pending = [] ∧ ∃ records, result = .ok records) ∨
    ∃ line rest fault, pending = line :: rest ∧ result = .error fault ∧
      Statement.interpret final line = .error fault
  /-- The definitions among the executed lines are all that changes the store. -/
  changed : final = defined store executed

lemma defined_cons (store : Store) (line : List Token) (lines : List (List Token)) :
    defined store (line :: lines) = defined (defined store [line]) lines := by
  rw [← List.singleton_append, defined, List.filter_append, List.foldl_append]
  rfl

lemma defined_singleton (store : Store) (line : List Token) :
    defined store [line] =
      if Statement.isDefinition line then Statement.define store line else store := by
  rw [defined, List.filter_singleton]
  split <;> simp_all

lemma Executed.map (h : Executed store executed pending result final)
    (f : List Record → List Record) : Executed store executed pending (result.map f) final where
  accepted := h.accepted
  stopped := by
    rcases h.stopped with ⟨all, records, rfl⟩ | ⟨line, rest, fault, cut, rfl, refused⟩
    · exact .inl ⟨all, f records, rfl⟩
    · exact .inr ⟨line, rest, fault, cut, rfl, refused⟩
  changed := h.changed

lemma Executed.nil (store : Store) : Executed store [] [] (.ok []) store where
  accepted := by simp
  stopped := .inl ⟨rfl, [], rfl⟩
  changed := rfl

lemma Executed.refused (h : Statement.interpret store line = .error fault) :
    Executed store [] (line :: rest) (.error fault) store where
  accepted := by simp
  stopped := .inr ⟨line, rest, fault, rfl, rfl, h⟩
  changed := rfl

/-- The step of `executed_run`: `store_of_interpret` turns the store that the line leaves into
`defined store [line]`, from which the other lines start (`defined_cons`). -/
lemma Executed.cons (interpreted : Statement.interpret store line = .ok effect)
    (h : Executed (effect.store store) executed pending result final) :
    Executed store (line :: executed) pending result final := by
  have first : defined store [line] = effect.store store := by
    rw [defined_singleton, Statement.store_of_interpret interpreted]
  refine ⟨fun before other after cut => ?_, h.stopped, ?_⟩
  · rcases List.cons_eq_append_iff.1 cut with ⟨rfl, same⟩ | ⟨others, rfl, inside⟩
    · obtain ⟨rfl, -⟩ := List.cons.inj same
      refine ⟨⟨effect, interpreted⟩, fun defines => ?_⟩
      rw [List.nil_append, defined_singleton, if_pos defines]
      exact Statement.sets_of_interpret interpreted defines
    · rw [List.cons_append, defined_cons _ _ others, defined_cons _ _ (others ++ [other]), first]
      exact h.accepted others other after inside
  · rw [defined_cons, first]
    exact h.changed

/-- Induction on the lines.  A refusal ends it, and the store is still the one that
`Statement.interpret` was given; that is why `Executed.stopped` may speak of `final`. -/
lemma executed_run (store : Store) (lines : List (List Token)) :
    ∃ executed pending, lines = executed ++ pending ∧
      Executed store executed pending (run store lines).1 (run store lines).2 := by
  induction lines generalizing store with
  | nil => exact ⟨[], [], rfl, .nil store⟩
  | cons line lines ih =>
    cases interpreted : Statement.interpret store line with
    | error fault =>
      rw [run_cons_of_error interpreted]
      exact ⟨[], line :: lines, rfl, .refused interpreted⟩
    | ok effect =>
      rw [run_cons_of_ok interpreted]
      obtain ⟨executed, pending, rfl, rest⟩ := ih (effect.store store)
      exact ⟨line :: executed, pending, rfl, (rest.cons interpreted).map _⟩

lemma executed_parse (store : Store) (tokens : List Token) :
    ∃ executed pending, Line.group tokens = executed ++ pending ∧
      Executed store executed pending (parse store tokens).1 (parse store tokens).2 := by
  obtain ⟨executed, pending, cut, h⟩ := executed_run store (Line.group tokens)
  cases ran : run store (Line.group tokens) with
  | mk result final =>
    rw [ran] at h
    rw [parse_of_run ran]
    exact ⟨executed, pending, cut, h.map Record.tidy⟩

end Program

end UtilityCss
