import Mathlib.Logic.Relation
import UtilityCss.Proofs.Record.Distinct

/-!
# Deleting empty layers

An empty layer is the start of a layer directly followed by its end.  `Deletes` removes one of them,
anywhere in a list of records, and that may make another layer empty.

`Record.elideEmptyLayers` makes such deletions (`deletesAll_elideEmptyLayers`), and its result does
not change if some were made before (`elideEmptyLayers_eq_of_deletes`): the end of an empty layer
always finds its start on top of what was kept.  Removing repetitions goes along with deletions,
because layer records are never repetitions.  So the parts of a list may be tidied first
(`tidy_append`).
-/

namespace UtilityCss.Record

variable {records fewer kept : List Record}

/-- One empty layer is deleted. -/
inductive Deletes : List Record → List Record → Prop
  | layer (before : List Record) (name : Text) (after : List Record) :
      Deletes (before ++ .layer name .start :: .layer name .stop :: after) (before ++ after)

/-- Empty layers are deleted one after the other. -/
abbrev DeletesAll : List Record → List Record → Prop := Relation.ReflTransGen Deletes

/-! ## Deletions in a part of a list -/

lemma Deletes.append_left (first : List Record) (h : Deletes records fewer) :
    Deletes (first ++ records) (first ++ fewer) := by
  obtain ⟨before, name, after⟩ := h
  simpa using Deletes.layer (first ++ before) name after

lemma Deletes.append_right (second : List Record) (h : Deletes records fewer) :
    Deletes (records ++ second) (fewer ++ second) := by
  obtain ⟨before, name, after⟩ := h
  simpa using Deletes.layer before name (after ++ second)

lemma DeletesAll.append {first second lessFirst lessSecond : List Record}
    (h : DeletesAll first lessFirst) (h' : DeletesAll second lessSecond) :
    DeletesAll (first ++ second) (lessFirst ++ lessSecond) :=
  (h.lift (· ++ second) fun _ _ => Deletes.append_right second).trans
    (h'.lift (lessFirst ++ ·) fun _ _ => Deletes.append_left lessFirst)

/-! ## Elision makes deletions, and does not depend on those made before -/

/-- `elideStep` either puts a record on those kept or takes the start of an empty layer off, so it
makes at most one deletion. -/
lemma deletesAll_elideStep (kept : List Record) (record : Record) :
    DeletesAll (kept.reverse ++ [record]) (elideStep kept record).reverse := by
  unfold elideStep
  split
  · rename_i name other rest
    split
    · rename_i same
      subst same
      simpa using Relation.ReflTransGen.single (Deletes.layer rest.reverse other [])
    · simpa using Relation.ReflTransGen.refl
  · simpa using Relation.ReflTransGen.refl

lemma deletesAll_foldl_elideStep (kept records : List Record) :
    DeletesAll (kept.reverse ++ records) (records.foldl elideStep kept).reverse := by
  induction records generalizing kept with
  | nil => simpa using Relation.ReflTransGen.refl
  | cons record records ih =>
    have step : DeletesAll (kept.reverse ++ [record] ++ records)
        ((elideStep kept record).reverse ++ records) :=
      (deletesAll_elideStep kept record).append .refl
    rw [List.append_assoc, List.singleton_append] at step
    exact step.trans (ih (elideStep kept record))

/-- `elideEmptyLayers` is made of deletions: `deletesAll_foldl_elideStep` with nothing kept
before. -/
theorem deletesAll_elideEmptyLayers (records : List Record) :
    DeletesAll records (elideEmptyLayers records) :=
  deletesAll_foldl_elideStep [] records

/-- A deletion that is made before changes nothing: the fold comes to the same kept records behind
the deleted pair. -/
theorem elideEmptyLayers_eq_of_deletes (h : Deletes records fewer) :
    elideEmptyLayers records = elideEmptyLayers fewer := by
  obtain ⟨before, name, after⟩ := h
  unfold elideEmptyLayers
  -- the start of the layer is put on what was kept, and its end takes it off again
  simp [List.foldl_append, elideStep]

lemma DeletesAll.subset (h : DeletesAll records fewer) : fewer ⊆ records := by
  induction h with
  | refl => exact List.Subset.refl _
  | tail _ step ih =>
    obtain ⟨before, name, after⟩ := step
    refine List.Subset.trans (fun record mem => ?_) ih
    rcases List.mem_append.1 mem with mem | mem
    · exact List.mem_append_left _ mem
    · exact List.mem_append_right _ (List.mem_cons_of_mem _ (List.mem_cons_of_mem _ mem))

/-! ## Tidying in parts -/

lemma Deletes.distinctFrom (seen : List (Text × List Text)) (h : Deletes records fewer) :
    Deletes (distinctFrom seen records) (distinctFrom seen fewer) := by
  obtain ⟨before, name, after⟩ := h
  rw [distinctFrom_append, distinctFrom_append]
  exact Deletes.layer _ name _

lemma tidy_eq_of_deletesAll (h : DeletesAll records fewer) : tidy records = tidy fewer := by
  induction h with
  | refl => rfl
  | tail _ step ih => exact ih.trans (elideEmptyLayers_eq_of_deletes (step.distinctFrom []))

lemma distinctFrom_subset (seen : List (Text × List Text)) (records : List Record) :
    Record.distinctFrom seen records ⊆ records := by
  induction records generalizing seen with
  | nil => exact List.Subset.refl _
  | cons record records ih =>
    rw [Record.distinctFrom]
    split
    · exact fun found mem => List.mem_cons_of_mem _ (ih seen mem)
    · exact List.cons_subset_cons record (ih _)

/-- Both passes of `tidy` only leave records out. -/
lemma tidy_subset (records : List Record) : tidy records ⊆ records :=
  List.Subset.trans (deletesAll_elideEmptyLayers _).subset (distinctFrom_subset [] records)

/-- The parts of a list may be tidied first, by `distinct_append` for the one pass and
`tidy_eq_of_deletesAll` for the other. -/
theorem tidy_append (first second : List Record) :
    tidy (tidy first ++ tidy second) = tidy (first ++ second) := by
  have deletions : DeletesAll (distinct first ++ distinct second) (tidy first ++ tidy second) :=
    (deletesAll_elideEmptyLayers _).append (deletesAll_elideEmptyLayers _)
  calc
    tidy (tidy first ++ tidy second) = tidy (distinct first ++ distinct second) :=
      (tidy_eq_of_deletesAll deletions).symm
    _ = tidy (first ++ second) := by rw [tidy, distinct_append, tidy]

end UtilityCss.Record
