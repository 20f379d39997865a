import Mathlib.Tactic.Lemma
import UtilityCss.Record.Tidy

/-!
# Removing repetitions in parts

`Record.distinct` may be applied to parts of a list before it is applied to the whole: nothing is
lost and nothing more is dropped (`distinct_append`).  What carries the proof is that a pass depends
only on which keys are known when it begins (`distinctFrom_congr`), and that a pass which knows some
keys makes an earlier one that knew fewer superfluous (`distinctFrom_distinctFrom`).
-/

namespace UtilityCss.Record

variable {seen known : List (Text × List Text)} {record : Record} {records : List Record}
  {key : Text × List Text}

/-- The key that a record is compared by; a layer record has none. -/
def key? : Record → Option (Text × List Text)
  | .layer _ _ => none
  | record => some record.key

/-- The keys of records. -/
def keys (records : List Record) : List (Text × List Text) := records.filterMap key?

lemma isRepeated_iff :
    record.isRepeated seen = true ↔ ∃ key, record.key? = some key ∧ key ∈ seen := by
  cases record <;> simp [isRepeated, key?]

lemma mem_see : key ∈ record.see seen ↔ record.key? = some key ∨ key ∈ seen := by
  cases record <;> simp [see, key?, eq_comm]

lemma isRepeated_congr (same : ∀ key, key ∈ seen ↔ key ∈ known) :
    record.isRepeated seen = record.isRepeated known := by
  rw [Bool.eq_iff_iff, isRepeated_iff, isRepeated_iff]
  simp only [same]

/-- `isRepeated` asks only whether a key is a member, so the order of the known keys and repetitions
among them do not matter. -/
theorem distinctFrom_congr (same : ∀ key, key ∈ seen ↔ key ∈ known) :
    distinctFrom seen records = distinctFrom known records := by
  induction records generalizing seen known with
  | nil => rfl
  | cons record records ih =>
    have step : ∀ key, key ∈ record.see seen ↔ key ∈ record.see known := by
      intro key
      rw [mem_see, mem_see, same]
    simp only [distinctFrom, isRepeated_congr same, ih same, ih step]

/-- The key of a first record may be counted among the known ones instead, which is what
`Record.see` does. -/
lemma mem_keys_cons_append :
    key ∈ keys (record :: records) ++ seen ↔ key ∈ keys records ++ record.see seen := by
  simp only [List.mem_append, mem_see, keys, List.filterMap_cons]
  cases record.key? with
  | none => simp
  | some own =>
    simp only [List.mem_cons, Option.some.injEq, eq_comm]
    exact or_assoc.trans or_left_comm

/-- The key of a repetition is known, so `distinctFrom` may drop the record without losing a key. -/
lemma mem_keys_cons_of_isRepeated (repeated : record.isRepeated seen) :
    key ∈ keys (record :: records) ++ seen ↔ key ∈ keys records ++ seen := by
  obtain ⟨own, keyed, taken⟩ := isRepeated_iff.1 repeated
  simp only [keys, List.filterMap_cons, keyed, List.cons_append, List.mem_cons,
    or_iff_right_iff_imp]
  rintro rfl
  exact List.mem_append_right _ taken

/-- A pass over two lists is a pass over the first and then one over the second that knows the keys
of the first.  By `distinctFrom_congr` it need not be said in which order it knows them. -/
lemma distinctFrom_append (seen : List (Text × List Text)) (first second : List Record) :
    distinctFrom seen (first ++ second) =
      distinctFrom seen first ++ distinctFrom (keys first ++ seen) second := by
  induction first generalizing seen with
  | nil => rfl
  | cons record first ih =>
    rw [List.cons_append, distinctFrom, distinctFrom]
    by_cases repeated : record.isRepeated seen
    · rw [if_pos repeated, if_pos repeated, ih,
        distinctFrom_congr fun _ => mem_keys_cons_of_isRepeated repeated]
    · rw [if_neg repeated, if_neg repeated, ih, List.cons_append,
        distinctFrom_congr fun _ => mem_keys_cons_append]

/-- A pass makes an earlier one that knew fewer keys superfluous; with `known` empty, this is what
lets the parts of a list be done first. -/
theorem distinctFrom_distinctFrom (subset : ∀ key ∈ known, key ∈ seen) :
    distinctFrom seen (distinctFrom known records) = distinctFrom seen records := by
  induction records generalizing seen known with
  | nil => rfl
  | cons record records ih =>
    rw [distinctFrom.eq_2 known, distinctFrom.eq_2 seen record records]
    by_cases early : record.isRepeated known
    · obtain ⟨key, here, taken⟩ := isRepeated_iff.1 early
      have late : record.isRepeated seen := isRepeated_iff.2 ⟨key, here, subset key taken⟩
      rw [if_pos early, if_pos late, ih subset]
    · rw [if_neg early, distinctFrom]
      by_cases late : record.isRepeated seen
      · rw [if_pos late, if_pos late]
        obtain ⟨own, keyed, taken⟩ := isRepeated_iff.1 late
        apply ih
        intro key mem
        rcases mem_see.1 mem with here | mem
        · obtain rfl := Option.some.inj (keyed.symm.trans here)
          exact taken
        · exact subset key mem
      · rw [if_neg late, if_neg late]
        congr 1
        apply ih
        intro key mem
        exact mem_see.2 ((mem_see.1 mem).imp_right (subset key))

/-- No key is lost, because `isRepeated` asks for a record with that key among those known. -/
lemma mem_keys_distinctFrom :
    key ∈ keys (distinctFrom seen records) ++ seen ↔ key ∈ keys records ++ seen := by
  induction records generalizing seen with
  | nil => rfl
  | cons record records ih =>
    rw [distinctFrom]
    by_cases repeated : record.isRepeated seen
    · rw [if_pos repeated, ih, mem_keys_cons_of_isRepeated repeated]
    · rw [if_neg repeated, mem_keys_cons_append, ih, mem_keys_cons_append]

/-- Repetitions may be removed from the parts of a list first: `distinctFrom_append` for the list,
`distinctFrom_distinctFrom` for each part. -/
theorem distinct_append (first second : List Record) :
    distinct (distinct first ++ distinct second) = distinct (first ++ second) := by
  unfold distinct
  rw [distinctFrom_append, distinctFrom_append, distinctFrom_distinctFrom (by simp),
    distinctFrom_distinctFrom (by simp), distinctFrom_congr fun _ => mem_keys_distinctFrom]

end UtilityCss.Record
