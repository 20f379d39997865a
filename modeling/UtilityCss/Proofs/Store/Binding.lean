import Mathlib.Data.List.Nodup
import UtilityCss.Store

/-!
# What a binding changes

A store is known by its names, in the order of definition, and by the slots of each name
(`Store.eq_of_names`).  A binding changes the slots of its own name only (`Store.slots?_bind`), and
the names only when its own is new (`Store.names_bind`), so no name is ever bound twice.
-/

namespace UtilityCss.Store

variable {store other : Store} {name : Text} {slots : List Slot}
  {bindings others : List (Text × List Slot)}

/-- The bound names in the order of definition. -/
def names (store : Store) : List Text := store.bindings.map Prod.fst

/-! ## Looking a name up -/

lemma lookup_binding (asked bound : Text) (slots : List Slot)
    (bindings : List (Text × List Slot)) :
    ((bound, slots) :: bindings).lookup asked =
      if asked = bound then some slots else bindings.lookup asked := by
  rw [List.lookup_cons]
  by_cases own : asked = bound
  · simp [own]
  · simp [own, beq_false_of_ne own]

lemma lookup_eq_none_of_not_mem (unbound : name ∉ bindings.map Prod.fst) :
    bindings.lookup name = none := by
  rw [List.lookup_eq_none_iff]
  intro binding mem
  have differs : name ≠ binding.1 := fun same => unbound (List.mem_map.2 ⟨binding, mem, same.symm⟩)
  simpa using differs

/-! ## Binding a name -/

lemma lookup_place (name : Text) (slots : List Slot) (bindings : List (Text × List Slot))
    (asked : Text) :
    (place name slots bindings).lookup asked =
      if asked = name then some slots else bindings.lookup asked := by
  induction bindings with
  | nil => exact lookup_binding asked name slots []
  | cons binding bindings ih =>
    obtain ⟨bound, kept⟩ := binding
    rw [place, lookup_binding]
    split
    · rename_i same
      subst same
      rw [lookup_binding]
      split <;> rfl
    · rename_i differs
      rw [lookup_binding, ih]
      by_cases own : asked = bound
      · subst own
        simp [differs]
      · simp [own]

/-- `lookup_place` for the list of bindings; where the name stands in the list does not matter here
(`names_bind`). -/
theorem slots?_bind (store : Store) (name : Text) (slots : List Slot) (asked : Text) :
    (store.bind name slots).slots? asked =
      if asked = name then some slots else store.slots? asked :=
  lookup_place name slots store.bindings asked

lemma map_fst_place (name : Text) (slots : List Slot) (bindings : List (Text × List Slot)) :
    (place name slots bindings).map Prod.fst =
      if name ∈ bindings.map Prod.fst then bindings.map Prod.fst
      else bindings.map Prod.fst ++ [name] := by
  induction bindings with
  | nil => rfl
  | cons binding bindings ih =>
    obtain ⟨bound, kept⟩ := binding
    rw [place]
    by_cases own : bound = name
    · simp [own]
    · rw [if_neg own, List.map_cons, ih]
      by_cases known : name ∈ bindings.map Prod.fst
      · rw [if_pos known, if_pos (by simp [known])]
        rfl
      · rw [if_neg known, if_neg (by simpa [Ne.symm own] using known)]
        rfl

/-- `place` replaces a binding where it finds the name and adds one at the end where it does not, so
that the order is the order of definition. -/
theorem names_bind (store : Store) (name : Text) (slots : List Slot) :
    (store.bind name slots).names =
      if name ∈ store.names then store.names else store.names ++ [name] :=
  map_fst_place name slots store.bindings

lemma mem_names_bind (name : Text) (slots : List Slot) (asked : Text) :
    asked ∈ (store.bind name slots).names ↔ asked = name ∨ asked ∈ store.names := by
  rw [names_bind]
  split
  · rename_i known
    exact ⟨.inr, fun h => h.elim (fun same => same ▸ known) id⟩
  · simp [or_comm]

lemma nodup_names_bind (once : store.names.Nodup) (name : Text) (slots : List Slot) :
    (store.bind name slots).names.Nodup := by
  rw [names_bind]
  split
  · exact once
  · rename_i new
    exact List.nodup_append.2 ⟨once, List.nodup_singleton name, by
      intro asked known last mem
      obtain rfl := List.mem_singleton.1 mem
      exact fun same => new (same ▸ known)⟩

/-! ## Names that are bound to something -/

/-- No name is bound to an empty list of slots. -/
def Filled (store : Store) : Prop :=
  ∀ name slots, store.slots? name = some slots → slots ≠ []

lemma filled_empty : Store.empty.Filled := by
  intro name slots bound
  simp [empty, slots?] at bound

lemma Filled.bind (filled : store.Filled) (name : Text) (given : slots ≠ []) :
    (store.bind name slots).Filled := by
  intro asked found bound
  rw [slots?_bind] at bound
  split at bound
  · exact Option.some.inj bound ▸ given
  · exact filled asked found bound

/-! ## Equal stores -/

lemma bindings_eq_of_names (same : bindings.map Prod.fst = others.map Prod.fst)
    (once : (bindings.map Prod.fst).Nodup)
    (agree : ∀ name, bindings.lookup name = others.lookup name) : bindings = others := by
  induction bindings generalizing others with
  | nil => exact (List.map_eq_nil_iff.1 same.symm).symm
  | cons binding bindings ih =>
    obtain ⟨name, slots⟩ := binding
    obtain ⟨⟨name', slots'⟩, others, rfl⟩ : ∃ first rest, others = first :: rest := by
      cases others with
      | nil => simp at same
      | cons first rest => exact ⟨first, rest, rfl⟩
    obtain ⟨rfl, names⟩ : name = name' ∧ bindings.map Prod.fst = others.map Prod.fst :=
      List.cons.inj same
    obtain ⟨new, once⟩ := List.nodup_cons.1 once
    have first : slots = slots' := by simpa [lookup_binding] using agree name
    have rest : bindings = others := by
      apply ih names once
      intro asked
      by_cases own : asked = name
      · subst own
        rw [lookup_eq_none_of_not_mem new, lookup_eq_none_of_not_mem (names ▸ new)]
      · simpa [lookup_binding, own] using agree asked
    rw [first, rest]

/-- Without `once` this fails, since `slots?` sees only the first of two bindings of a name. -/
theorem eq_of_names (same : store.names = other.names) (once : store.names.Nodup)
    (agree : ∀ name, store.slots? name = other.slots? name) : store = other := by
  obtain ⟨bindings⟩ := store
  obtain ⟨others⟩ := other
  exact congrArg Store.mk (bindings_eq_of_names same once agree)

end UtilityCss.Store
