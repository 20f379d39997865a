import UtilityCss.Proofs.Record.Distinct
import UtilityCss.Proofs.Sheet.Composition

/-!
# The first record of each key

A pass over records knows the keys of the records before, so what it keeps can be said without it:
a record stays if no record before it has its key (`Record.IsNew`).  Rules and comments share one
space of keys, and layer records have none, so all of them stay.
-/

namespace UtilityCss.Record

variable {seen : List (Text × List Text)} {records : List Record} {key : Text × List Text}

/-- None of the records before has the key of the record, if it has one. -/
def IsNew (before : List Record) (record : Record) : Prop :=
  ∀ key ∈ record.key?, key ∉ keys before

lemma isNew_iff {before : List Record} {record : Record} :
    IsNew before record ↔ record.isRepeated (keys before) = false := by
  rw [← Bool.not_eq_true, isRepeated_iff]
  simp [IsNew]

instance (before : List Record) (record : Record) : Decidable (IsNew before record) :=
  decidable_of_iff _ isNew_iff.symm

/-- `along` gives each record the records before it; the keys that `distinctFrom` has seen are
theirs and those that it was given. -/
lemma distinctFrom_eq_along (seen : List (Text × List Text)) (records : List Record) :
    distinctFrom seen records =
      along (fun before record =>
        if record.isRepeated (keys before ++ seen) then none else some record) records := by
  induction records generalizing seen with
  | nil => rfl
  | cons record records ih =>
    rw [distinctFrom, along_cons]
    by_cases repeated : record.isRepeated seen
    · have known (before : List Record) (other : Record) :
          other.isRepeated (keys (record :: before) ++ seen) =
            other.isRepeated (keys before ++ seen) :=
        isRepeated_congr fun _ => mem_keys_cons_of_isRepeated repeated
      simp only [known]
      rw [if_pos repeated, ih]
      simp [keys, repeated]
    · have known (before : List Record) (other : Record) :
          other.isRepeated (keys (record :: before) ++ seen) =
            other.isRepeated (keys before ++ record.see seen) :=
        isRepeated_congr fun _ => mem_keys_cons_append
      simp only [known]
      rw [if_neg repeated, ih]
      simp [keys, repeated]

/-- `distinctFrom_eq_along` without known keys, where not being repeated is being `IsNew`. -/
lemma distinct_eq_along (records : List Record) :
    distinct records =
      along (fun before record => if IsNew before record then some record else none) records := by
  rw [distinct, distinctFrom_eq_along]
  congr 1
  funext before record
  by_cases new : IsNew before record
  · rw [if_pos new, List.append_nil, isNew_iff.1 new]
    rfl
  · have repeated : record.isRepeated (keys before) = true := by simpa [isNew_iff] using new
    rw [if_neg new, List.append_nil, if_pos repeated]

lemma not_mem_of_mem_keys_distinctFrom (mem : key ∈ keys (distinctFrom seen records)) :
    key ∉ seen := by
  fun_induction distinctFrom seen records with
  | case1 => simp [keys] at mem
  | case2 seen record records repeated ih => exact ih mem
  | case3 seen record records new ih =>
    obtain ⟨kept, listed, own⟩ := List.mem_filterMap.1 mem
    rcases List.mem_cons.1 listed with rfl | listed
    · exact fun known => new (isRepeated_iff.2 ⟨key, own, known⟩)
    · have later := ih (List.mem_filterMap.2 ⟨kept, listed, own⟩)
      exact fun known => later (mem_see.2 (.inr known))

lemma nodup_keys_distinctFrom (seen : List (Text × List Text)) (records : List Record) :
    (keys (distinctFrom seen records)).Nodup := by
  fun_induction distinctFrom seen records with
  | case1 => exact .nil
  | case2 seen record records repeated ih => exact ih
  | case3 seen record records new ih =>
    cases own : record.key? with
    | none =>
      rw [keys, List.filterMap_cons_none own]
      exact ih
    | some key =>
      have fresh : key ∉ keys (distinctFrom (record.see seen) records) := fun mem =>
        not_mem_of_mem_keys_distinctFrom mem (mem_see.2 (.inl own))
      rw [keys, List.filterMap_cons_some own]
      exact List.nodup_cons.2 ⟨fresh, ih⟩

/-- Removing repetitions keeps the records that are new among those before them (`IsNew`).  Their
keys are the keys of all records, each of them once; a second time nothing is removed; and it may be
done in the parts of a list first. -/
theorem distinct_keeps_first (records : List Record) :
    distinct records =
      along (fun before record => if IsNew before record then some record else none) records ∧
    (keys (distinct records)).Nodup ∧
    (∀ key, key ∈ keys (distinct records) ↔ key ∈ keys records) ∧
    distinct (distinct records) = distinct records ∧
    ∀ first second, distinct (first ++ second) = distinct (distinct first ++ distinct second) := by
  refine ⟨distinct_eq_along records, nodup_keys_distinctFrom [] records, fun key => ?_,
    distinctFrom_distinctFrom (by simp), fun first second => (distinct_append first second).symm⟩
  have same : key ∈ keys (distinct records) ++ [] ↔ key ∈ keys records ++ [] :=
    mem_keys_distinctFrom
  rwa [List.append_nil, List.append_nil] at same

end UtilityCss.Record
