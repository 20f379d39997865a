import Mathlib.Data.List.Induction
import UtilityCss.Proofs.Store.Binding

/-!
# A store and its history

A store is filled by definitions and updates and emptied by removals and clearings.  What it shows
after a history of such operations (`Store.after`) is said here in terms of the history alone: which
names are bound (`Bound`), what they were last bound to (`Last`), and when each of them came in
(`Enters`).

All three say that something happened and that nothing has undone it since (`Since`).  One more
operation happens itself or leaves alone what happened before (`since_concat`), which gives each of
them its step; what an operation does to a store is known from its slots (`slots?_apply`) and its
names (`names_apply`).  The main statement is `after_reflects`.
-/

namespace UtilityCss

/-- One slot for each value, with the unit at its position; where no unit is given the slot has
none. -/
def Slot.Paired (values : List Scalar) (units : List (Option Text)) (slots : List Slot) : Prop :=
  slots.length = values.length ∧
    ∀ (i : Nat) (value : Scalar), values[i]? = some value → slots[i]? = some ⟨value, units[i]?.join⟩

lemma Slot.paired_iff {values : List Scalar} {units : List (Option Text)} {slots : List Slot} :
    Paired values units slots ↔ pair values units = slots := by
  have pairs : Paired values units (pair values units) := by
    fun_induction pair values units with
    | case1 => simp [Paired]
    | case2 value values ih =>
      refine ⟨congrArg (· + 1) ih.1, fun i other found => ?_⟩
      cases i with
      | zero => simpa using found
      | succ i => simpa using ih.2 i other (by simpa using found)
    | case3 value values unit units ih =>
      refine ⟨congrArg (· + 1) ih.1, fun i other found => ?_⟩
      cases i with
      | zero => simpa using found
      | succ i => simpa using ih.2 i other (by simpa using found)
  constructor
  · rintro ⟨length, paired⟩
    refine List.ext_getElem? fun i => ?_
    cases found : values[i]? with
    | some value => rw [pairs.2 i value found, paired i value found]
    | none =>
      have beyond := List.getElem?_eq_none_iff.1 found
      rw [List.getElem?_eq_none (pairs.1 ▸ beyond), List.getElem?_eq_none (length ▸ beyond)]
  · rintro rfl
    exact pairs

namespace Store

/-! ## Histories -/

/-- What can be done to a store. -/
inductive Operation
  | define (name : Text) (values : List Scalar) (units : List (Option Text))
  | update (name : Text) (values : List Scalar) (units : List (Option Text))
  | remove (name : Text)
  | clear

namespace Operation

/-- The store after an operation. -/
def apply (store : Store) : Operation → Store
  | .define name values units => store.define name values units
  | .update name values units => (store.update name values units).2
  | .remove name => (store.remove name).2
  | .clear => .empty

/-- Does the operation unbind the name? -/
def drops (name : Text) : Operation → Bool
  | .remove removed => removed = name
  | .clear => true
  | _ => false

/-- Is the operation about the name? -/
def concerns (name : Text) : Operation → Bool
  | .define own _ _ => own = name
  | .update own _ _ => own = name
  | operation => operation.drops name

/-- Does the operation define the name? -/
def Defines (name : Text) (operation : Operation) : Prop :=
  ∃ values units, operation = .define name values units

end Operation

/-- The store after a history, which is given with the oldest operation first. -/
def after (history : List Operation) : Store := history.foldl Operation.apply .empty

variable {history : List Operation} {operation : Operation} {store : Store} {name : Text}
  {values : List Scalar} {units : List (Option Text)} {slots : List Slot} {place : Nat}

/-- Some operation was the given event, seen from the operations before it, and all later ones have
left it alone. -/
def Since (leaves : Operation → Prop) (event : List Operation → Operation → Prop)
    (history : List Operation) : Prop :=
  ∃ before operation later, history = before ++ operation :: later ∧ event before operation ∧
    ∀ next ∈ later, leaves next

/-- The name was defined, and since then there was neither a clearing nor a removal of the name. -/
def Bound (history : List Operation) (name : Text) : Prop :=
  Since (fun next => next.drops name = false) (fun _ operation => operation.Defines name) history

/-- The last operation about the name was a definition with these values and units, or an update
with them that found the name bound. -/
def Last (history : List Operation) (name : Text) (values : List Scalar)
    (units : List (Option Text)) : Prop :=
  Since (fun next => next.concerns name = false)
    (fun before operation => operation = .define name values units ∨
      operation = .update name values units ∧ Bound before name) history

/-- The operation at this place of the history defined the name when it was absent, and the name has
not been absent since. -/
def Enters (history : List Operation) (name : Text) (place : Nat) : Prop :=
  Since (fun next => next.drops name = false)
    (fun before operation => before.length = place ∧ operation.Defines name ∧ ¬Bound before name)
    history

/-- What a store shows after a history. -/
structure Reflects (history : List Operation) (store : Store) : Prop where
  bound : ∀ name, store.contains name = true ↔ Bound history name
  slots : ∀ name slots, store.slots? name = some slots ↔
    ∃ values units, Last history name values units ∧ Slot.Paired values units slots
  /-- An update of a name that is not bound changes nothing and says so. -/
  refused : ∀ name values units, ¬Bound history name →
    store.update name values units = (false, store)
  updated : ∀ name values units, Bound history name →
    store.update name values units = (true, store.define name values units)
  /-- All ways of reading the store agree. -/
  contained : ∀ name, store.contains name = true ↔ ∃ slots, store.slots? name = some slots
  rendered : ∀ name text, store.get? name = some text ↔
    ∃ slots, store.slots? name = some slots ∧ Slot.renderAll slots none = text
  listed : ∀ name text, (name, text) ∈ store.all ↔ store.get? name = some text
  counted : store.size = store.all.length
  once : (store.all.map Prod.fst).Nodup
  /-- A name is listed before those that came in later. -/
  ordered : (store.all.map Prod.fst).Pairwise fun name other =>
    ∃ place later, place < later ∧ Enters history name place ∧ Enters history other later

/-! ## One more operation -/

lemma after_concat (history : List Operation) (operation : Operation) :
    after (history ++ [operation]) = operation.apply (after history) := by
  simp [after]

lemma not_since_nil {leaves : Operation → Prop} {event : List Operation → Operation → Prop} :
    ¬Since leaves event [] := by
  rintro ⟨before, operation, later, split, -⟩
  simp at split

/-- The one induction step for `Bound`, `Last` and `Enters`, which are all instances of `Since`. -/
theorem since_concat {leaves : Operation → Prop} {event : List Operation → Operation → Prop} :
    Since leaves event (history ++ [operation]) ↔
      event history operation ∨ Since leaves event history ∧ leaves operation := by
  constructor
  · rintro ⟨before, own, later, split, happened, left⟩
    rcases List.eq_nil_or_concat later with rfl | ⟨later, last, rfl⟩
    · obtain ⟨rfl, same⟩ := List.append_inj' split rfl
      obtain rfl := List.cons.inj same |>.1
      exact .inl happened
    · rw [List.concat_eq_append, ← List.cons_append, ← List.append_assoc] at split
      obtain ⟨rfl, same⟩ := List.append_inj' split rfl
      obtain rfl := List.cons.inj same |>.1
      rw [List.concat_eq_append, List.forall_mem_append] at left
      exact .inr ⟨⟨before, own, later, rfl, happened, left.1⟩, left.2 _ (by simp)⟩
  · rintro (happened | ⟨⟨before, own, later, rfl, happened, left⟩, last⟩)
    · exact ⟨history, operation, [], rfl, happened, by simp⟩
    · refine ⟨before, own, later ++ [operation], by simp, happened, ?_⟩
      exact List.forall_mem_append.2 ⟨left, List.forall_mem_singleton.2 last⟩

lemma Operation.Defines.keeps (defines : operation.Defines name) (other : Text) :
    operation.drops other = false := by
  obtain ⟨values, units, rfl⟩ := defines
  rfl

/-- `Enters` asks that the name was absent before, which `Bound` does not: a name that is defined
again came in at an earlier place. -/
lemma bound_iff_enters : Bound history name ↔ ∃ place, Enters history name place := by
  induction history using List.reverseRecOn with
  | nil => exact ⟨fun bound => absurd bound not_since_nil, fun ⟨_, enters⟩ =>
      absurd enters not_since_nil⟩
  | append_singleton history operation ih =>
    simp only [Bound, Enters, since_concat] at ih ⊢
    constructor
    · rintro (defines | ⟨bound, keeps⟩)
      · by_cases known : Bound history name
        · obtain ⟨place, enters⟩ := ih.1 known
          exact ⟨place, .inr ⟨enters, defines.keeps name⟩⟩
        · exact ⟨history.length, .inl ⟨rfl, defines, known⟩⟩
      · obtain ⟨place, enters⟩ := ih.1 bound
        exact ⟨place, .inr ⟨enters, keeps⟩⟩
    · rintro ⟨place, ⟨-, defines, -⟩ | ⟨enters, keeps⟩⟩
      · exact .inl defines
      · exact .inr ⟨ih.2 ⟨place, enters⟩, keeps⟩

lemma Enters.bound (enters : Enters history name place) : Bound history name :=
  bound_iff_enters.2 ⟨place, enters⟩

lemma Enters.lt_length (enters : Enters history name place) : place < history.length := by
  obtain ⟨before, operation, later, rfl, ⟨rfl, -⟩, -⟩ := enters
  simp

/-- A second place would be one where the name was absent, and it has been bound since the first
(`Enters.bound`). -/
lemma Enters.unique {other : Nat} (enters : Enters history name place)
    (also : Enters history name other) : place = other := by
  induction history using List.reverseRecOn with
  | nil => exact absurd enters not_since_nil
  | append_singleton history operation ih =>
    rcases since_concat.1 enters with ⟨rfl, -, absent⟩ | ⟨old, -⟩ <;>
      rcases since_concat.1 also with ⟨rfl, -, missing⟩ | ⟨earlier, -⟩
    · rfl
    · exact absurd (Enters.bound earlier) absent
    · exact absurd (Enters.bound old) missing
    · exact ih old earlier

/-! ## The names -/

lemma contains_iff : store.contains name = true ↔ ∃ slots, store.slots? name = some slots :=
  Option.isSome_iff_exists

lemma contains_iff_mem_names : store.contains name = true ↔ name ∈ store.names := by
  rw [contains, slots?, List.lookup_isSome_iff, names, List.mem_map]
  simp only [beq_iff_eq, @eq_comm _ name]

/-- The names that an operation adds to those of a store. -/
def Operation.brings (store : Store) : Operation → List Text
  | .define name _ _ => if name ∈ store.names then [] else [name]
  | _ => []

lemma Operation.mem_brings :
    name ∈ operation.brings store ↔ operation.Defines name ∧ name ∉ store.names := by
  cases operation with
  | define own values units =>
    by_cases known : own ∈ store.names
    · have absent (same : own = name) : name ∈ store.names := same ▸ known
      simpa [brings, Defines, known] using absent
    · have new (same : own = name) : name ∉ store.names := same ▸ known
      simpa [brings, Defines, known, eq_comm] using new
  | update | remove | clear => simp [brings, Defines]

/-- The two parts of the new list are those that `pairwise_names_after` has to put in order: what
`drops` leaves and what `brings` adds. -/
theorem names_apply (store : Store) (operation : Operation) :
    (operation.apply store).names =
      store.names.filter (fun name => !operation.drops name) ++ operation.brings store := by
  cases operation with
  | define name values units =>
    rw [Operation.apply, define, names_bind]
    by_cases known : name ∈ store.names
    · simp [Operation.drops, Operation.brings, known]
    · simp [Operation.drops, Operation.brings, known]
  | update name values units =>
    rw [Operation.apply, update]
    by_cases known : store.contains name = true
    · rw [if_pos known, define, names_bind, if_pos (contains_iff_mem_names.1 known)]
      simp [Operation.drops, Operation.brings]
    · rw [if_neg known]
      simp [Operation.drops, Operation.brings]
  | remove removed =>
    simp [Operation.apply, Operation.drops, Operation.brings, remove, names, List.filter_map,
      Function.comp_def, eq_comm]
  | clear => simp [Operation.apply, Operation.drops, Operation.brings, names, empty]

lemma contains_after_iff : (after history).contains name = true ↔ Bound history name := by
  induction history using List.reverseRecOn with
  | nil => exact iff_of_false Bool.false_ne_true not_since_nil
  | append_singleton history operation ih =>
    rw [contains_iff_mem_names] at ih
    rw [contains_iff_mem_names, after_concat, names_apply, List.mem_append, List.mem_filter,
      Operation.mem_brings, ih, Bool.not_eq_true', Bound, Bound, since_concat]
    constructor
    · rintro (kept | ⟨defines, -⟩)
      · exact .inr kept
      · exact .inl defines
    · rintro (defines | kept)
      · by_cases known : Bound history name
        · exact .inl ⟨known, defines.keeps name⟩
        · exact .inr ⟨defines, known⟩
      · exact .inl kept

/-- A name that is added comes in now, at place `history.length`, and all names that are kept came
in before (`Enters.lt_length`). -/
lemma pairwise_names_after (history : List Operation) :
    (after history).names.Pairwise fun name other =>
      ∃ place later, place < later ∧ Enters history name place ∧ Enters history other later := by
  induction history using List.reverseRecOn with
  | nil => exact .nil
  | append_singleton history operation ih =>
    have stays {name : Text} {place : Nat} (enters : Enters history name place)
        (kept : operation.drops name = false) : Enters (history ++ [operation]) name place :=
      since_concat.2 (.inr ⟨enters, kept⟩)
    rw [after_concat, names_apply]
    refine List.pairwise_append.2 ⟨?_, ?_, ?_⟩
    · refine (ih.filter _).imp_of_mem fun first second => ?_
      rintro ⟨place, later, before, enters, follows⟩
      have kept := (List.mem_filter.1 first).2
      have keeps := (List.mem_filter.1 second).2
      exact ⟨place, later, before, stays enters (by simpa using kept),
        stays follows (by simpa using keeps)⟩
    · -- At most one name is added.
      cases operation with
      | define =>
        simp only [Operation.brings]
        split
        · exact .nil
        · exact List.pairwise_singleton _ _
      | update | remove | clear => exact .nil
    · intro name old other new
      obtain ⟨known, kept⟩ := List.mem_filter.1 old
      obtain ⟨defines, absent⟩ := Operation.mem_brings.1 new
      obtain ⟨place, enters⟩ :=
        bound_iff_enters.1 (contains_after_iff.1 (contains_iff_mem_names.2 known))
      refine ⟨place, history.length, enters.lt_length, stays enters (by simpa using kept), ?_⟩
      refine since_concat.2 (.inl ⟨rfl, defines, fun bound => absent ?_⟩)
      exact contains_iff_mem_names.1 (contains_after_iff.2 bound)

lemma nodup_names_after (history : List Operation) : (after history).names.Nodup :=
  (pairwise_names_after history).imp fun {name other} => by
    rintro ⟨place, later, before, enters, follows⟩ rfl
    exact absurd (enters.unique follows) (Nat.ne_of_lt before)

/-! ## The slots of a name -/

lemma lookup_filter_ne (removed asked : Text) (bindings : List (Text × List Slot)) :
    (bindings.filter (·.1 ≠ removed)).lookup asked =
      if asked = removed then none else bindings.lookup asked := by
  induction bindings with
  | nil => simp
  | cons binding bindings ih =>
    obtain ⟨bound, slots⟩ := binding
    rw [lookup_binding]
    by_cases dropped : bound = removed
    · rw [List.filter_cons_of_neg (by simpa using dropped), ih]
      by_cases own : asked = removed
      · simp [own]
      · simp [own, dropped]
    · rw [List.filter_cons_of_pos (by simpa using dropped), lookup_binding, ih]
      by_cases own : asked = bound
      · simp [own, dropped]
      · simp [own]

lemma slots?_define (store : Store) (name : Text) (values : List Scalar)
    (units : List (Option Text)) (asked : Text) :
    (store.define name values units).slots? asked =
      if asked = name then some (Slot.pair values units) else store.slots? asked :=
  slots?_bind store name (Slot.pair values units) asked

lemma slots?_update (store : Store) (name : Text) (values : List Scalar)
    (units : List (Option Text)) (asked : Text) :
    (store.update name values units).2.slots? asked =
      if asked = name ∧ store.contains name = true then some (Slot.pair values units)
      else store.slots? asked := by
  rw [update]
  by_cases known : store.contains name = true
  · simp [known, slots?_define]
  · simp [known]

lemma slots?_remove (store : Store) (name asked : Text) :
    (store.remove name).2.slots? asked = if asked = name then none else store.slots? asked :=
  lookup_filter_ne name asked store.bindings

/-- As one equivalence for all operations, in the form of `since_concat`: the operation binds the
name, or the slots were there and it does not concern the name. -/
theorem slots?_apply (store : Store) (operation : Operation) (name : Text) (slots : List Slot) :
    (operation.apply store).slots? name = some slots ↔
      (∃ values units, (operation = .define name values units ∨
        operation = .update name values units ∧ store.contains name = true) ∧
          Slot.pair values units = slots) ∨
        store.slots? name = some slots ∧ operation.concerns name = false := by
  cases operation with
  | define own values units =>
    rw [Operation.apply, slots?_define]
    by_cases same : name = own
    · subst same
      simp [Operation.concerns]
    · simp [Operation.concerns, same, Ne.symm same]
  | update own values units =>
    rw [Operation.apply, slots?_update]
    by_cases same : name = own
    · subst same
      by_cases known : store.contains name = true
      · simp [Operation.concerns, known]
      · have unbound : store.slots? name ≠ some slots := fun found =>
          known (contains_iff.2 ⟨slots, found⟩)
        simp [Operation.concerns, known, unbound]
    · simp [Operation.concerns, same, Ne.symm same]
  | remove removed =>
    rw [Operation.apply, slots?_remove]
    by_cases same : name = removed
    · simp [Operation.concerns, Operation.drops, same]
    · simp [Operation.concerns, Operation.drops, same, Ne.symm same]
  | clear => simp [Operation.apply, Operation.concerns, Operation.drops, empty, slots?]

lemma slots?_after_iff :
    (after history).slots? name = some slots ↔
      ∃ values units, Last history name values units ∧ Slot.pair values units = slots := by
  induction history using List.reverseRecOn with
  | nil =>
    refine iff_of_false (by simp [after, empty, slots?]) ?_
    rintro ⟨values, units, last, -⟩
    exact not_since_nil last
  | append_singleton history operation ih =>
    rw [after_concat, slots?_apply, ih, contains_after_iff]
    simp only [Last, since_concat]
    grind

/-! ## The whole store -/

lemma map_fst_all (store : Store) : store.all.map Prod.fst = store.names := by
  simp [all, names]

lemma mem_bindings_iff (once : store.names.Nodup) :
    (name, slots) ∈ store.bindings ↔ store.slots? name = some slots := by
  rw [slots?, List.lookup_eq_some_iff]
  constructor
  · intro mem
    obtain ⟨before, later, split⟩ := List.append_of_mem mem
    refine ⟨before, later, split, fun binding earlier => ?_⟩
    rw [names, split, List.map_append, List.map_cons, List.nodup_append] at once
    simpa using (once.2.2 binding.1 (List.mem_map_of_mem earlier) name (by simp)).symm
  · rintro ⟨before, later, split, -⟩
    simp [split]

lemma get?_eq_some_iff {text : Text} : store.get? name = some text ↔
    ∃ slots, store.slots? name = some slots ∧ Slot.renderAll slots none = text :=
  Option.map_eq_some_iff

lemma mem_all_iff {text : Text} (once : store.names.Nodup) :
    (name, text) ∈ store.all ↔ store.get? name = some text := by
  simp only [get?_eq_some_iff, ← mem_bindings_iff once, all, List.mem_map]
  constructor
  · rintro ⟨⟨bound, slots⟩, mem, same⟩
    obtain ⟨rfl, rfl⟩ := Prod.mk.inj same
    exact ⟨slots, mem, rfl⟩
  · rintro ⟨slots, mem, rfl⟩
    exact ⟨(name, slots), mem, rfl⟩

/-- A store shows its history.  The bound names are those that were defined and not dropped since
(`Bound`); each has the slots of its last definition or successful update (`Last`); an update of any
other name changes nothing; all ways of reading agree; and the names are listed once, in the order
in which they came in (`Enters`). -/
theorem after_reflects (history : List Operation) : Reflects history (after history) where
  bound _ := contains_after_iff
  slots _ _ := by simp only [slots?_after_iff, Slot.paired_iff]
  refused name values units absent := if_neg (mt contains_after_iff.1 absent)
  updated name values units bound := if_pos (contains_after_iff.2 bound)
  contained _ := contains_iff
  rendered _ _ := get?_eq_some_iff
  listed _ _ := mem_all_iff (nodup_names_after history)
  counted := by simp [size, all]
  once := map_fst_all _ ▸ nodup_names_after history
  ordered := map_fst_all _ ▸ pairwise_names_after history

end Store

end UtilityCss
