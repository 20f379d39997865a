import UtilityCss.Proofs.Record.Distinct

/-!
# Layers that do not overlap

A `Span` is a layer with what stands between its two ends, and no layer begins or ends in there.
Where records are a sequence of spans they stay so: tidying them means to tidy what is inside the
spans and to drop those that have become empty (`Span.tidy_flatMap`).
-/

namespace UtilityCss

/-- A layer in a sequence that marks the ends of layers by `mark`. -/
structure Span {α : Type} (mark : Text → Edge → α) where
  name : Text
  inner : List α
  /-- No layer begins or ends inside. -/
  plain : ∀ name edge, mark name edge ∉ inner

/-- The layer with its ends. -/
def Span.flat {α : Type} {mark : Text → Edge → α} (span : Span mark) : List α :=
  mark span.name .start :: (span.inner ++ [mark span.name .stop])

/-! ## Tidying -/

namespace Record

variable {seen : List (Text × List Text)} {records kept : List Record} {record : Record}

lemma mem_of_mem_distinctFrom (mem : record ∈ distinctFrom seen records) : record ∈ records := by
  fun_induction distinctFrom seen records with
  | case1 => exact mem
  | case2 seen first records repeated ih => exact List.mem_cons_of_mem _ (ih mem)
  | case3 seen first records new ih =>
    rcases List.mem_cons.1 mem with rfl | mem
    · exact List.mem_cons_self
    · exact List.mem_cons_of_mem _ (ih mem)

/-- `elideStep` deletes only at the end of a layer, so what holds no layer is kept as it is. -/
lemma foldl_elideStep_of_plain (plain : ∀ name edge, .layer name edge ∉ records) :
    records.foldl elideStep kept = records.reverse ++ kept := by
  induction records generalizing kept with
  | nil => rfl
  | cons record records ih =>
    have step : elideStep kept record = record :: kept := by
      unfold elideStep
      split
      · rename_i name _ _
        exact absurd List.mem_cons_self (plain name .stop)
      · rfl
    rw [List.foldl_cons, step, ih fun name edge mem => plain name edge (List.mem_cons_of_mem _ mem)]
    simp

end Record

namespace Span

variable {spans : List (Span Record.layer)}

/-- The spans without the records that are repetitions, given the keys that are known already. -/
def distinctFrom (seen : List (Text × List Text)) :
    List (Span Record.layer) → List (Span Record.layer)
  | [] => []
  | span :: spans =>
    { name := span.name
      inner := Record.distinctFrom seen span.inner
      plain := fun name edge mem => span.plain name edge (Record.mem_of_mem_distinctFrom mem) } ::
    distinctFrom (Record.keys span.inner ++ seen) spans

/-- The spans without repetitions and without those that are then empty. -/
def tidy (spans : List (Span Record.layer)) : List (Span Record.layer) :=
  (distinctFrom [] spans).filter (·.inner ≠ [])

lemma distinctFrom_flatMap (seen : List (Text × List Text)) (spans : List (Span Record.layer)) :
    Record.distinctFrom seen (spans.flatMap flat) = (distinctFrom seen spans).flatMap flat := by
  induction spans generalizing seen with
  | nil => rfl
  | cons span spans ih =>
    have keys : Record.keys span.flat = Record.keys span.inner := by
      simp [Record.keys, flat, List.filterMap_cons, Record.key?]
    have inside : Record.distinctFrom seen span.flat =
        .layer span.name .start ::
          (Record.distinctFrom seen span.inner ++ [.layer span.name .stop]) := by
      have ends (rest : List Record) (seen : List (Text × List Text)) (edge : Edge) :
          Record.distinctFrom seen (.layer span.name edge :: rest) =
            .layer span.name edge :: Record.distinctFrom seen rest := rfl
      rw [flat, ends, Record.distinctFrom_append, ends]
      rfl
    rw [List.flatMap_cons, Record.distinctFrom_append, keys, inside, ih]
    rfl

/-- At the end of a span `elideStep` looks at the record before it.  If that is the start, the span
is empty and both are dropped; else the span is kept as a whole. -/
lemma foldl_elideStep_flat (kept : List Record) (span : Span Record.layer) :
    span.flat.foldl Record.elideStep kept =
      if span.inner = [] then kept else span.flat.reverse ++ kept := by
  have begins : Record.elideStep kept (.layer span.name .start) =
      .layer span.name .start :: kept := rfl
  rw [flat, List.foldl_cons, begins, List.foldl_append,
    Record.foldl_elideStep_of_plain span.plain, List.foldl_cons, List.foldl_nil]
  cases shape : span.inner.reverse with
  | nil =>
    have empty : span.inner = [] := List.reverse_eq_nil_iff.1 shape
    simp [Record.elideStep, empty]
  | cons last before =>
    -- the end of the layer meets the last record inside, which is not its start
    have filled : span.inner ≠ [] := fun empty => by simp [empty] at shape
    have mem : last ∈ span.inner := List.mem_reverse.1 (shape ▸ List.mem_cons_self)
    cases last with
    | layer name edge => exact absurd mem (span.plain name edge)
    | rule | comment => simp [Record.elideStep, filled, shape]

lemma elideEmptyLayers_flatMap (spans : List (Span Record.layer)) :
    Record.elideEmptyLayers (spans.flatMap flat) =
      (spans.filter (·.inner ≠ [])).flatMap flat := by
  have folded (kept : List Record) : (spans.flatMap flat).foldl Record.elideStep kept =
      ((spans.filter (·.inner ≠ [])).flatMap flat).reverse ++ kept := by
    induction spans generalizing kept with
    | nil => rfl
    | cons span spans ih =>
      rw [List.flatMap_cons, List.foldl_append, foldl_elideStep_flat, ih]
      by_cases empty : span.inner = [] <;> simp [empty]
  simp [Record.elideEmptyLayers, folded]

/-- `Record.tidy` on a sequence of spans is `Span.tidy`, which is easier to state: repetitions are
left out of each span in turn, and then spans that have become empty. -/
theorem tidy_flatMap (spans : List (Span Record.layer)) :
    Record.tidy (spans.flatMap flat) = (tidy spans).flatMap flat := by
  rw [Record.tidy, Record.distinct, distinctFrom_flatMap, elideEmptyLayers_flatMap, tidy]

end Span

end UtilityCss
