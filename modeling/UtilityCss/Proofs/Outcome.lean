import Mathlib.Tactic.Lemma
import UtilityCss.Text.Basic

/-!
# Taking results apart

A computation that may fail is a chain of steps in `Except`.  The lemmas here say what is known of
the steps when the result of the chain is known, so that a proof can take a `do` block apart with
`obtain` and never has to unfold it.
-/

namespace UtilityCss

variable {ε α β : Type} {result : Except ε α} {value : β}

/-- A `do` block gives a value exactly when its first step does and the rest gives that value.  All
inversions of readers start with this, so that no definition has to be unfolded further than its
first step. -/
lemma bind_eq_ok_iff {rest : α → Except ε β} :
    (result >>= rest) = .ok value ↔ ∃ first, result = .ok first ∧ rest first = .ok value := by
  cases result with
  | error e => simp [bind, Except.bind]
  | ok first => simp [bind, Except.bind]

lemma map_eq_ok_iff {f : α → β} :
    result.map f = .ok value ↔ ∃ first, result = .ok first ∧ f first = value := by
  cases result with
  | error e => simp [Except.map]
  | ok first => simp [Except.map]

/-- The counterpart of `bind_eq_ok_iff`: a `do` block fails with its first step, or with the rest
after that. -/
lemma bind_eq_error_iff {fault : ε} {rest : α → Except ε β} :
    (result >>= rest) = .error fault ↔
      result = .error fault ∨ ∃ first, result = .ok first ∧ rest first = .error fault := by
  cases result with
  | error e => simp [bind, Except.bind]
  | ok first => simp [bind, Except.bind]

lemma map_eq_error_iff {fault : ε} {f : α → β} :
    result.map f = .error fault ↔ result = .error fault := by
  cases result with
  | error e => simp [Except.map]
  | ok first => simp [Except.map]

lemma toOption_eq_some_iff {found : α} : result.toOption = some found ↔ result = .ok found := by
  cases result with
  | error e => simp [Except.toOption]
  | ok first => simp [Except.toOption]

/-! ## Lists of steps -/

/-- `List.mapM` goes from left to right, so that it is the first failing step that counts. -/
lemma mapM_eq_error_iff {fault : ε} {step : β → Except ε α} {inputs : List β} :
    inputs.mapM step = .error fault ↔
      ∃ before input after, inputs = before ++ input :: after ∧
        (∀ earlier ∈ before, ∃ value, step earlier = .ok value) ∧ step input = .error fault := by
  induction inputs with
  | nil => simp [pure, Except.pure]
  | cons input inputs ih =>
    rw [List.mapM_cons, bind_eq_error_iff]
    constructor
    · rintro (here | ⟨value, fine, h⟩)
      · exact ⟨[], input, inputs, rfl, by simp, here⟩
      · rcases bind_eq_error_iff.1 h with there | ⟨values, -, h⟩
        · obtain ⟨before, failing, after, rfl, accepted, fails⟩ := ih.1 there
          refine ⟨input :: before, failing, after, rfl, ?_, fails⟩
          exact List.forall_mem_cons.2 ⟨⟨value, fine⟩, accepted⟩
        · simp [pure, Except.pure] at h
    · rintro ⟨before, failing, after, split, accepted, fails⟩
      cases before with
      | nil =>
        obtain ⟨rfl, rfl⟩ := List.cons.inj split
        exact .inl fails
      | cons first before =>
        obtain ⟨rfl, rfl⟩ := List.cons.inj split
        obtain ⟨⟨value, fine⟩, accepted⟩ := List.forall_mem_cons.1 accepted
        exact .inr ⟨value, fine, bind_eq_error_iff.2
          (.inl (ih.2 ⟨before, failing, after, rfl, accepted, fails⟩))⟩

/-- That `List.mapM` succeeds says nothing about order, unlike `mapM_eq_error_iff`. -/
lemma exists_mapM_eq_ok_iff {step : β → Except ε α} {inputs : List β} :
    (∃ values, inputs.mapM step = .ok values) ↔
      ∀ input ∈ inputs, ∃ value, step input = .ok value := by
  induction inputs with
  | nil => simp [pure, Except.pure]
  | cons input inputs ih =>
    rw [List.forall_mem_cons, ← ih, List.mapM_cons]
    constructor
    · rintro ⟨values, h⟩
      obtain ⟨first, here, h⟩ := bind_eq_ok_iff.1 h
      obtain ⟨others, there, -⟩ := bind_eq_ok_iff.1 h
      exact ⟨⟨first, here⟩, others, there⟩
    · rintro ⟨⟨first, here⟩, others, there⟩
      exact ⟨first :: others, bind_eq_ok_iff.2 ⟨first, here, bind_eq_ok_iff.2 ⟨others, there, rfl⟩⟩⟩

/-- What a `view` sees of the values can be seen of the inputs already, so that `Sheet.order` and
`Sheet.groups` can be stated over records. -/
lemma filterMap_of_mapM {γ : Type} {step : β → Except ε α} {inputs : List β} {values : List α}
    {view : α → Option γ} {view' : β → Option γ}
    (same : ∀ input value, step input = .ok value → view value = view' input)
    (h : inputs.mapM step = .ok values) : values.filterMap view = inputs.filterMap view' := by
  induction inputs generalizing values with
  | nil =>
    obtain rfl : [] = values := Except.ok.inj h
    rfl
  | cons input inputs ih =>
    rw [List.mapM_cons] at h
    obtain ⟨first, here, h⟩ := bind_eq_ok_iff.1 h
    obtain ⟨others, there, h⟩ := bind_eq_ok_iff.1 h
    obtain rfl : first :: others = values := Except.ok.inj h
    rw [List.filterMap_cons, List.filterMap_cons, same input first here, ih there]

/-- Each value of a `List.mapM` comes from one of its inputs. -/
lemma exists_of_mem_mapM {step : β → Except ε α} {inputs : List β} {values : List α} {value : α}
    (h : inputs.mapM step = .ok values) (mem : value ∈ values) :
    ∃ input ∈ inputs, step input = .ok value := by
  induction inputs generalizing values with
  | nil =>
    obtain rfl : [] = values := Except.ok.inj h
    simp at mem
  | cons input inputs ih =>
    rw [List.mapM_cons] at h
    obtain ⟨first, here, h⟩ := bind_eq_ok_iff.1 h
    obtain ⟨others, there, h⟩ := bind_eq_ok_iff.1 h
    obtain rfl : first :: others = values := Except.ok.inj h
    rcases List.mem_cons.1 mem with rfl | mem
    · exact ⟨input, List.mem_cons_self, here⟩
    · obtain ⟨found, later, same⟩ := ih there mem
      exact ⟨found, List.mem_cons_of_mem _ later, same⟩

end UtilityCss
