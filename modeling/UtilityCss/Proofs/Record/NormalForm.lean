import UtilityCss.Proofs.Layer.Nesting

/-!
# The normal form of deleting empty layers

Every deletion of an empty layer may bring a start and an end together and so make another layer
empty.  One pass reaches the end of it: what it has kept never holds an empty layer
(`reduced_foldl_elideStep`).  Since deletions that are made before the pass do not change its
result, they all lead to that result, in whatever order they are made (`NormalForm`).

Layers are properly nested by name exactly when deletions lead from their ends to nothing
(`nested_of_deletesAll`, `Nested.deletesAll`), so deletions keep layers nested.
-/

namespace UtilityCss

namespace Record

variable {records fewer kept : List Record} {record : Record}

/-! ## No empty layer is left -/

/-- Nowhere does the end of a layer follow directly on its start. -/
def Reduced (records : List Record) : Prop :=
  ∀ before name after, records ≠ before ++ .layer name .start :: .layer name .stop :: after

lemma reduced_nil : Reduced [] := by simp [Reduced]

lemma Reduced.of_append {rest : List Record} (reduced : Reduced (records ++ rest)) :
    Reduced records := by
  rintro before name after rfl
  exact reduced before name (after ++ rest) (by simp)

lemma Reduced.not_deletes (reduced : Reduced records) : ¬Deletes records fewer := by
  rintro ⟨before, name, after⟩
  exact reduced before name after rfl

/-- `Reduced` asks that no layer end stands right behind its start, so only the last record can
spoil it. -/
lemma Reduced.concat (reduced : Reduced records)
    (apart : ∀ name, record = .layer name .stop → records.getLast? ≠ some (.layer name .start)) :
    Reduced (records ++ [record]) := by
  intro before name after same
  -- Either the empty layer ends with the new record, or it stands in the old ones.
  rcases List.eq_nil_or_concat after with rfl | ⟨after, last, rfl⟩
  · have cut : records ++ [record] = before ++ [.layer name .start] ++ [.layer name .stop] := by
      simpa using same
    obtain ⟨rfl, ends⟩ := List.append_inj' cut rfl
    exact apart name (List.singleton_inj.1 ends) (by simp)
  · have cut : records ++ [record] =
        before ++ .layer name .start :: .layer name .stop :: after ++ [last] := by
      simpa using same
    exact reduced before name after (List.append_inj' cut rfl).1

/-- The step for `reduced_foldl_elideStep`: `elideStep` never puts the end of a layer on its start,
which is what `Reduced.concat` asks. -/
lemma Reduced.elideStep (reduced : Reduced kept.reverse) (record : Record) :
    Reduced (elideStep kept record).reverse := by
  unfold Record.elideStep
  split
  · rename_i name other rest
    split
    · rw [List.reverse_cons] at reduced
      exact reduced.of_append
    · rename_i different
      rw [List.reverse_cons]
      refine reduced.concat fun ended ends => ?_
      obtain ⟨rfl, -⟩ := Record.layer.inj ends
      simpa using different
  · rename_i noPair
    rw [List.reverse_cons]
    refine reduced.concat fun name ends begins => ?_
    rw [List.getLast?_reverse] at begins
    obtain ⟨rest, shape⟩ := List.head?_eq_some_iff.1 begins
    exact noPair name name rest ends shape

/-- The run, by `Reduced.elideStep`: what a pass has kept holds no empty layer. -/
theorem reduced_foldl_elideStep (kept records : List Record) (reduced : Reduced kept.reverse) :
    Reduced (records.foldl elideStep kept).reverse := by
  induction records generalizing kept with
  | nil => exact reduced
  | cons record records ih => exact ih (elideStep kept record) (reduced.elideStep record)

/-! ## All deletions lead to the same records -/

/-- The records that are left when empty layers are deleted until there are none. -/
structure NormalForm (records result : List Record) : Prop where
  reached : DeletesAll records result
  reduced : Reduced result
  /-- Deletions that are made in another order can be continued to the same result. -/
  joined : ∀ fewer, DeletesAll records fewer → DeletesAll fewer result
  /-- Deletions that are made to their end have the same result. -/
  unique : ∀ fewer, DeletesAll records fewer → Reduced fewer → fewer = result

lemma Reduced.eq_of_deletesAll (reduced : Reduced records) (h : DeletesAll records fewer) :
    fewer = records :=
  (Relation.reflTransGen_iff_eq fun _ => reduced.not_deletes).1 h

lemma DeletesAll.joined (h : DeletesAll records fewer) :
    DeletesAll fewer (elideEmptyLayers records) := by
  rw [elideEmptyLayers_eq_of_deletesAll h]
  exact deletesAll_elideEmptyLayers fewer

lemma DeletesAll.eq_elideEmptyLayers (h : DeletesAll records fewer) (reduced : Reduced fewer) :
    fewer = elideEmptyLayers records :=
  (reduced.eq_of_deletesAll h.joined).symm

/-- `NormalForm` asks for a result of deletions that is reduced; `deletesAll_elideEmptyLayers` and
`reduced_foldl_elideStep` give the two halves. -/
lemma normalForm_elideEmptyLayers (records : List Record) :
    NormalForm records (elideEmptyLayers records) where
  reached := deletesAll_elideEmptyLayers records
  reduced := reduced_foldl_elideStep [] records reduced_nil
  joined _ := DeletesAll.joined
  unique _ := DeletesAll.eq_elideEmptyLayers

/-! ## What deletions keep -/

/-- A deletion takes two layer records away, which `mark?` tells from comments and declarations. -/
lemma DeletesAll.filter_mark? (h : DeletesAll records fewer) :
    fewer.filter (·.mark? = none) = records.filter (·.mark? = none) := by
  induction h with
  | refl => rfl
  | tail _ step ih =>
    obtain ⟨before, name, after⟩ := step
    rw [← ih]
    simp [mark?]

/-- The ends of layers among the records, as records. -/
def marks (records : List Record) : List Record := (records.filterMap mark?).map ofMark

lemma Deletes.marks (h : Deletes records fewer) : Deletes (marks records) (marks fewer) := by
  obtain ⟨before, name, after⟩ := h
  simpa [Record.marks, mark?, ofMark] using
    Deletes.layer (Record.marks before) name (Record.marks after)

lemma filterMap_mark?_marks (records : List Record) :
    (marks records).filterMap mark? = records.filterMap mark? := by
  simp [marks, List.filterMap_map, Function.comp_def, mark?, ofMark]

end Record

/-! ## Nested layers -/

variable {all before after : List (Text × Edge)} {name : Text}

/-- An empty layer may be put anywhere into nested layers; the induction follows `Nested` and looks
for the place. -/
lemma Nested.insert (nested : Nested (before ++ after)) :
    Nested (before ++ (name, .start) :: (name, .stop) :: after) := by
  have empty (marks : List (Text × Edge)) (rest : Nested marks) :
      Nested ((name, .start) :: (name, .stop) :: marks) := Nested.layer name .nil rest
  generalize whole : before ++ after = all at nested
  induction nested generalizing before after with
  | nil =>
    obtain ⟨rfl, rfl⟩ := List.append_eq_nil_iff.1 whole
    exact empty [] .nil
  | @layer outer inner rest inside later ihInside ihLater =>
    cases before with
    | nil =>
      rw [List.nil_append] at whole
      exact whole ▸ empty _ (.layer outer inside later)
    | cons first before =>
      obtain ⟨rfl, cut⟩ := List.cons.inj whole
      -- The place is inside of the outer layer, or behind its end.
      rcases List.append_eq_append_iff.1 cut with ⟨middle, rfl, rfl⟩ | ⟨middle, rfl, tail⟩
      · simpa using Nested.layer outer (ihInside rfl) later
      · cases middle with
        | nil =>
          obtain rfl : (outer, .stop) :: rest = after := by simpa using tail
          simpa using Nested.layer outer (ihInside (List.append_nil _)) later
        | cons stop middle =>
          obtain ⟨rfl, rfl⟩ := List.cons.inj tail
          simpa using Nested.layer outer inside (ihLater rfl)

namespace Record

variable {records fewer : List Record}

/-- The converse of `Nested.deletesAll`: undoing the deletions one by one is inserting empty layers
(`Nested.insert`). -/
theorem nested_of_deletesAll (h : DeletesAll records []) : Nested (records.filterMap mark?) := by
  induction h using Relation.ReflTransGen.head_induction_on with
  | refl => exact .nil
  | head step _ ih =>
    obtain ⟨before, name, after⟩ := step
    rw [List.filterMap_append] at ih
    simpa [mark?] using ih.insert

/-- `Nested` is the same as being deletable altogether, and by confluence what is left after some
deletions is still deletable. -/
lemma DeletesAll.nested (h : DeletesAll records fewer)
    (nested : Nested (records.filterMap mark?)) : Nested (fewer.filterMap mark?) := by
  have emptied : [] = elideEmptyLayers (marks records) :=
    nested.deletesAll.eq_elideEmptyLayers reduced_nil
  have shared : DeletesAll (marks records) (marks fewer) := h.lift marks fun _ _ => Deletes.marks
  rw [← filterMap_mark?_marks]
  exact nested_of_deletesAll (emptied ▸ shared.joined)

/-- `elideEmptyLayers` computes the normal form of deleting empty layers (`NormalForm`).  Doing it
again changes nothing, comments and declarations stay in order, layers with nothing but layers in
them vanish altogether, and nested layers stay nested (`Nested`). -/
theorem elideEmptyLayers_normalizes (records : List Record) :
    NormalForm records (elideEmptyLayers records) ∧
    elideEmptyLayers (elideEmptyLayers records) = elideEmptyLayers records ∧
    (elideEmptyLayers records).filter (·.mark? = none) = records.filter (·.mark? = none) ∧
    (∀ before layers after, Nested layers → records = before ++ (layers.map ofMark ++ after) →
      elideEmptyLayers records = elideEmptyLayers (before ++ after)) ∧
    (Nested (records.filterMap mark?) → Nested ((elideEmptyLayers records).filterMap mark?)) := by
  have reached := deletesAll_elideEmptyLayers records
  refine ⟨normalForm_elideEmptyLayers records, (elideEmptyLayers_eq_of_deletesAll reached).symm,
    reached.filter_mark?, ?_, reached.nested⟩
  rintro before layers after nested rfl
  exact elideEmptyLayers_eq_of_deletesAll
    (DeletesAll.append .refl (nested.deletesAll.append .refl))

end Record

end UtilityCss
