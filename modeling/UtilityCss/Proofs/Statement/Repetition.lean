import UtilityCss.Proofs.Layer.Nesting
import UtilityCss.Proofs.Statement.Extension
import UtilityCss.Proofs.Store.Binding

/-!
# Repeating a program

A program that is accepted from an empty store may be repeated: further copies define nothing new
and add no records (`Program.parse_repeated`).

A further copy runs against a store that is full already.  Line by line, its store is that of the
first run laid over the final one (`Store.Overlays`): every name that was bound at this point of the
first run has the same slots now, and the others still have those that the program leaves.  So the
line is accepted again and differs at most in a media condition, which does not count when
repetitions are removed.  What is left of the copy are its layers, and they are empty.
-/

namespace UtilityCss

/-- The store `upper` laid over `base`, in the order of the names of `base`. -/
structure Store.Overlays (upper base store : Store) : Prop where
  names : store.names = base.names
  slots : ∀ name, store.slots? name = (upper.slots? name).or (base.slots? name)

namespace Store.Overlays

variable {upper base store : Store}

lemma empty (base : Store) : Store.empty.Overlays base base :=
  ⟨rfl, fun _ => rfl⟩

/-- This is what lets `Statement.interpret_extends` apply to every line of a further copy. -/
lemma upper_extends (h : upper.Overlays base store) : upper.Extends store := by
  intro name slots bound
  rw [h.slots, bound]
  rfl

lemma bind (h : upper.Overlays base store) {name : Text} (known : name ∈ base.names)
    (slots : List Slot) : (upper.bind name slots).Overlays base (store.bind name slots) where
  names := by rw [names_bind, h.names, if_pos known]
  slots := by
    intro asked
    rw [slots?_bind, slots?_bind, h.slots]
    split <;> rfl

/-- `slots?` takes the first binding of a name, so stores with the same names and answers are equal
only if no name is repeated (`eq_of_names`). -/
lemma eq (h : base.Overlays base store) (once : base.names.Nodup) : store = base := by
  apply eq_of_names h.names (h.names ▸ once)
  intro name
  rw [h.slots, Option.or_self]

end Store.Overlays

namespace Program

variable {store final base larger : Store} {lines : List (List Token)} {tokens : List Token}
  {records : List Record} {effect : Effect}

/-! ## The store along a run -/

/-- Of the `Statement.effect_cases` only a definition binds a name, and `Assignment.read` refuses
one without slots. -/
lemma slots_ne_nil_of_interpret {line : List Token} {assignment : Assignment}
    (interpreted : Statement.interpret store line = .ok effect)
    (defines : effect.assignment = some assignment) : assignment.slots ≠ [] := by
  rcases Statement.interpret_cases interpreted with ⟨none, -⟩ | taken
  · simp [none] at defines
  rcases Statement.effect_cases taken with
    ⟨_, _, -, -, -, rfl⟩ | ⟨made, -, given, rfl⟩ | ⟨_, -, -, rfl⟩
  · simp at defines
  · obtain rfl : made = assignment := Option.some.inj defines
    obtain ⟨_, -, read⟩ := bind_eq_ok_iff.1 given
    exact (Assignment.declared_of_read read).2
  · simp at defines

/-- All that a run does to a store is to bind names to something, so an invariant of `Store.bind` is
one of `run`, also where the run ends with a fault. -/
lemma run_keeps {P : Store → Prop}
    (kept : ∀ store name slots, slots ≠ [] → P store → P (store.bind name slots))
    {result : Except StatementFault (List Record)} (start : P store)
    (ran : run store lines = (result, final)) : P final := by
  induction lines generalizing store result with
  | nil =>
    obtain rfl : store = final := (Prod.mk.inj ran).2
    exact start
  | cons line lines ih =>
    cases interpreted : Statement.interpret store line with
    | error fault =>
      rw [run_cons_of_error interpreted] at ran
      obtain rfl : store = final := (Prod.mk.inj ran).2
      exact start
    | ok effect =>
      have next : P (effect.store store) := by
        unfold Effect.store
        split
        · exact start
        · rename_i assignment defines
          exact kept store _ _ (slots_ne_nil_of_interpret interpreted defines) start
      rw [run_cons_of_ok interpreted] at ran
      exact ih next (Prod.ext rfl (Prod.mk.inj ran).2)

lemma names_subset_run {result : Except StatementFault (List Record)}
    (ran : run store lines = (result, final)) : store.names ⊆ final.names := by
  intro name bound
  exact run_keeps (P := fun store => name ∈ store.names)
    (fun _ _ _ _ bound => (Store.mem_names_bind _ _ _).2 (.inr bound)) bound ran

lemma nodup_names_run {result : Except StatementFault (List Record)}
    (ran : run .empty lines = (result, final)) : final.names.Nodup := by
  have start : Store.empty.names.Nodup := List.nodup_nil
  exact run_keeps (P := fun store => store.names.Nodup)
    (fun _ name slots _ once => Store.nodup_names_bind once name slots) start ran

/-- `Store.Filled` is such an invariant (`run_keeps`), so that what asks for it holds after any
program. -/
lemma filled_parse {result : Except StatementFault (List Record)} (filled : store.Filled)
    (parsed : parse store tokens = (result, final)) : final.Filled := by
  obtain ⟨-, same⟩ := Prod.mk.inj parsed
  exact run_keeps (fun _ name _ given filled => filled.bind name given) filled
    (Prod.ext rfl same)

/-! ## Running once more -/

lemma overlays_effect (h : store.Overlays base larger)
    (known : (effect.store store).names ⊆ base.names) {more : List Record} :
    (effect.store store).Overlays base
      (Effect.store ⟨more, effect.assignment⟩ larger) := by
  obtain ⟨records, assignment⟩ := effect
  cases assignment with
  | none => exact h
  | some assignment =>
    exact h.bind (known ((Store.mem_names_bind _ _ _).2 (.inl rfl))) assignment.slots

/-- Induction on the lines.  `upper_extends` and `Statement.interpret_extends` give the line its
effect again, and `overlays_effect` keeps the relation; for the latter `base` has to know the name
that is bound, or the order of the names would change. -/
lemma run_overlays (h : store.Overlays base larger)
    (ran : run store lines = (.ok records, final)) (known : final.names ⊆ base.names) :
    ∃ more after, run larger lines = (.ok more, after) ∧ final.Overlays base after ∧
      more.map Record.unconditional = records.map Record.unconditional := by
  -- Every name that is bound on the way is bound in the end, so `base` knows it and no binding
  -- changes the order of the names.
  induction lines generalizing store larger records with
  | nil =>
    obtain ⟨rfl, rfl⟩ : [] = records ∧ store = final := by simpa [run] using ran
    exact ⟨[], larger, rfl, h, rfl⟩
  | cons line lines ih =>
    obtain ⟨effect, rest, interpreted, ranRest, rfl⟩ := run_cons_eq_ok ran
    obtain ⟨more, again, same⟩ := Statement.interpret_extends h.upper_extends interpreted
    have next :
        (effect.store store).Overlays base (Effect.store ⟨more, effect.assignment⟩ larger) :=
      overlays_effect h fun name bound => known (names_subset_run ranRest bound)
    obtain ⟨moreRest, after, againRest, overlays, sameRest⟩ := ih next ranRest
    refine ⟨more ++ moreRest, after, ?_, overlays, ?_⟩
    · rw [run_cons_of_ok again, againRest]
      rfl
    · rw [List.map_append, List.map_append, same, sameRest]

/-- The start is the empty store laid over `final`, and the end is `final` laid over itself
(`Overlays.eq`). -/
lemma run_again (ran : run .empty lines = (.ok records, final)) :
    ∃ more, run final lines = (.ok more, final) ∧
      more.map Record.unconditional = records.map Record.unconditional := by
  obtain ⟨more, after, again, overlays, same⟩ :=
    run_overlays (.empty final) ran (List.Subset.refl _)
  obtain rfl := overlays.eq (nodup_names_run ran)
  exact ⟨more, again, same⟩

/-! ## Copies of a program -/

/-- Keys and layer markers do not look at media conditions, so a further copy has the same ones
(`run_copies`). -/
lemma filterMap_eq_of_unconditional {α : Type} {view : Record → Option α} {more : List Record}
    (blind : ∀ record, view record.unconditional = view record)
    (same : more.map Record.unconditional = records.map Record.unconditional) :
    more.filterMap view = records.filterMap view := by
  have viewed (records : List Record) :
      (records.map Record.unconditional).filterMap view = records.filterMap view := by
    rw [List.filterMap_map]
    exact congrArg (List.filterMap · records) (funext blind)
  rw [← viewed more, same, viewed]

lemma group_copies (tokens : List Token) (count : Nat) :
    Line.group ([.newline].intercalate (List.replicate (count + 1) tokens)) =
      (List.replicate (count + 1) (Line.group tokens)).flatten := by
  induction count with
  | zero => simp
  | succ count ih =>
    rw [List.replicate_succ, List.replicate_succ, List.intercalate_cons_cons, List.append_assoc,
      List.singleton_append, Line.group_append_newline, ← List.replicate_succ, ih,
      ← List.flatten_cons, ← List.replicate_succ]

/-- Induction on the number of copies, each of which starts from `final` (`run_again`).  The keys
and the nesting are what `Record.tidy_append_of_known` asks for. -/
lemma run_copies (nested : Nested (tokens.filterMap Token.mark?))
    (ran : run .empty (Line.group tokens) = (.ok records, final)) (count : Nat) :
    ∃ more, run .empty (List.replicate (count + 1) (Line.group tokens)).flatten =
        (.ok (records ++ more), final) ∧
      (∀ key ∈ Record.keys more, key ∈ Record.keys records) ∧
      Nested (more.filterMap Record.mark?) := by
  induction count with
  | zero => exact ⟨[], by simpa using ran, by simp [Record.keys], .nil⟩
  | succ count ih =>
    obtain ⟨more, copies, known, layers⟩ := ih
    obtain ⟨last, again, same⟩ := run_again ran
    have keys : Record.keys last = Record.keys records :=
      filterMap_eq_of_unconditional (fun record => by cases record <;> rfl) same
    have marks : last.filterMap Record.mark? = tokens.filterMap Token.mark? :=
      (filterMap_eq_of_unconditional (fun record => by cases record <;> rfl) same).trans
        (mark?_run ran)
    refine ⟨more ++ last, ?_, ?_, ?_⟩
    · rw [List.replicate_succ', List.flatten_append, List.flatten_singleton,
        run_append_of_ok copies, again, ← List.append_assoc]
      rfl
    · intro key mem
      rw [Record.keys, List.filterMap_append, List.mem_append] at mem
      exact mem.elim (known key) fun mem => keys ▸ mem
    · rw [List.filterMap_append, marks]
      exact layers.append nested

/-- A program whose layers are nested and which is accepted from an empty store may be repeated any
number of times, with the same records and the same store in the end.  Layers that are not nested
could stay behind, since `Record.elideEmptyLayers` removes a layer only with the marker that ends
it. -/
theorem parse_repeated (nested : Nested (tokens.filterMap Token.mark?))
    (parsed : parse .empty tokens = (.ok records, final)) {count : Nat} (positive : 1 ≤ count) :
    parse .empty ([.newline].intercalate (List.replicate count tokens)) = (.ok records, final) := by
  obtain ⟨count, rfl⟩ := Nat.exists_eq_add_of_le' positive
  obtain ⟨all, ran, rfl⟩ := parse_eq_ok parsed
  obtain ⟨more, copies, known, layers⟩ := run_copies nested ran count
  rw [parse_of_run ((congrArg (run .empty) (group_copies tokens count)).trans copies)]
  simp only [Except.map, Record.tidy_append_of_known known layers]

/-! ## A program with nested layers

The media width `m` is not defined yet when the rule asks for it, and the inner layer has nothing in
it but the definition. -/

def lateWidth : List Token :=
  [.layer "base" .start,
    .keyword "ADD", .property "border", .value (.text "5px"), .mediaVariableRef "m", .newline,
    .layer "inner" .start,
    .keyword "VAR", .variable "m", .equals, .value (.integer 700), .newline,
    .layer "inner" .stop,
    .keyword "VAR", .variable "n", .equals, .variableRef "m" (some "px"), .newline,
    .layer "base" .stop]

def lateWidthRecords : List Record :=
  [.layer "base" .start, .rule ⟨"border", ["5px"], none, none, none, by simp⟩, .layer "base" .stop]

def lateWidthStore : Store :=
  ⟨[("m", [⟨.integer 700, none⟩]), ("n", [⟨.integer 700, some "px"⟩])]⟩

theorem parse_repeated_lateWidth :
    Nested (lateWidth.filterMap Token.mark?) ∧
      parse .empty lateWidth = (.ok lateWidthRecords, lateWidthStore) ∧ 1 ≤ 3 ∧
      parse .empty ([.newline].intercalate (List.replicate 3 lateWidth)) =
        (.ok lateWidthRecords, lateWidthStore) := by
  have nested : Nested (lateWidth.filterMap Token.mark?) :=
    .layer "base" (.layer "inner" .nil .nil) .nil
  have parsed : parse .empty lateWidth = (.ok lateWidthRecords, lateWidthStore) := rfl
  exact ⟨nested, parsed, by decide, parse_repeated nested parsed (by decide)⟩

end Program

end UtilityCss
