import UtilityCss.Proofs.Statement.Atomicity
import UtilityCss.Proofs.Token.DigitRuns

/-!
# Faults of lines

Three things can stop a line.  Its form can be wrong; this is found without a look at what its names
and numbers mean (`StatementFault.Formal`).  The expansion of its property can fail, and so can the
splitting of its literals.  `Statement.fails_interpret` says that there is nothing else, so that the
faults of lines of some kind are known once those of the last two are.

Adding rules never reads a number, and of what is gathered for a definition only the literals of the
line itself are split: the slots of other variables are copied.  So lines whose literals can be
split are interpreted, or refused with a fault that is reported (`Program.reports_parse`).
-/

namespace UtilityCss

/-- The stage reports the fault. -/
def StatementFault.Reported : StatementFault → Prop
  | .integerTooLong _ => False
  | _ => True

/-- The fault is one of the form of a line. -/
def StatementFault.Formal : StatementFault → Prop
  | .invalidProperty _ | .noVariants _ | .integerTooLong _ => False
  | _ => True

lemma StatementFault.Formal.reported {fault : StatementFault} (formal : fault.Formal) :
    fault.Reported := by
  cases fault with
  | integerTooLong e => exact formal
  | _ => trivial

/-- If something stops the computation, it is of this kind. -/
def Fails {α : Type} (kind : StatementFault → Prop) (result : Except StatementFault α) : Prop :=
  ∀ fault, result = .error fault → kind fault

/-- If something stops the computation, it is reported. -/
def Reports {α : Type} (result : Except StatementFault α) : Prop :=
  ∀ fault, result = .error fault → fault.Reported

section

variable {α β : Type} {kind other : StatementFault → Prop} {result : Except StatementFault α}
  {fault : StatementFault}

lemma fails_ok (value : α) : Fails kind (.ok value) := by
  rintro _ ⟨⟩

lemma fails_error (found : kind fault) : Fails (α := α) kind (.error fault) := by
  rintro _ ⟨⟩
  exact found

lemma Fails.mono (fails : Fails kind result) (wider : ∀ fault, kind fault → other fault) :
    Fails other result :=
  fun fault failed => wider fault (fails fault failed)

lemma Fails.bind (first : Fails kind result) {rest : α → Except StatementFault β}
    (later : ∀ value, result = .ok value → Fails kind (rest value)) :
    Fails kind (result >>= rest) := by
  intro fault failed
  rcases bind_eq_error_iff.1 failed with here | ⟨value, given, there⟩
  · exact first fault here
  · exact later value given fault there

lemma Fails.map (fails : Fails kind result) (f : α → β) : Fails kind (result.map f) :=
  fun fault failed => fails fault (map_eq_error_iff.1 failed)

lemma fails_mapM {step : β → Except StatementFault α} (fails : ∀ input, Fails kind (step input))
    (inputs : List β) : Fails kind (inputs.mapM step) := by
  intro fault failed
  obtain ⟨_, input, _, _, _, here⟩ := mapM_eq_error_iff.1 failed
  exact fails input fault here

end

variable {kind : StatementFault → Prop} {store : Store} {line tokens : List Token}

/-! ## Rules -/

lemma Gathered.formal_gather (store : Store) (gathered : Gathered) (previous : Option Token)
    (line : List Token) : Fails StatementFault.Formal (gathered.gather store previous line) := by
  have step (gathered : Gathered) (previous : Option Token) (token : Token)
      (following : Option Token) :
      Fails StatementFault.Formal (gathered.step store previous token following) := by
    unfold Gathered.step
    split
    · exact fails_ok _
    · exact fails_ok _
    · split
      · exact fails_error trivial
      · exact fails_ok _
    · split
      · exact fails_ok _
      · exact fails_error trivial
    · split
      · exact fails_error trivial
      · exact fails_ok _
    · exact fails_ok _
  induction line generalizing gathered previous with
  | nil => exact fails_ok _
  | cons token line ih => exact (step _ _ _ _).bind fun _ _ => ih _ _

lemma reports_expansion (base : Text) (identifier : Option Text) :
    Reports (expansion base identifier) := by
  have named : Fails StatementFault.Reported (candidates base identifier) := by
    unfold candidates
    split
    · exact fails_ok _
    split
    · exact fails_ok _
    split
    · split
      · exact fails_error trivial
      · exact fails_ok _
    · exact fails_ok _
  refine named.bind fun names _ => ?_
  split
  · exact fails_error trivial
  · exact fails_ok _

namespace Addition

lemma formal_atMostOne {α : Type} {fault : StatementFault} (formal : fault.Formal)
    (found : List α) : Fails StatementFault.Formal (atMostOne fault found) := by
  unfold atMostOne
  split
  · exact fails_ok _
  · exact fails_ok _
  · exact fails_error formal

lemma formal_read (store : Store) (line : List Token) :
    Fails StatementFault.Formal (read store line) := by
  have property : Fails StatementFault.Formal (singleProperty line) := by
    unfold singleProperty
    split
    · exact fails_error trivial
    · exact fails_ok _
    · exact fails_error trivial
  refine property.bind fun _ _ => (Gathered.formal_gather _ _ _ _).bind fun _ _ => ?_
  split
  · exact fails_error trivial
  · refine (formal_atMostOne ?_ _).bind fun _ _ => (formal_atMostOne ?_ _).bind fun _ _ =>
      fails_ok _
    · trivial
    · trivial

lemma fails_declarations (addition : Addition) (store : Store)
    (named : Fails kind addition.properties) : Fails kind (addition.declarations store) :=
  named.bind fun _ _ => fails_ok _

lemma reports_properties (addition : Addition) : Reports addition.properties := by
  unfold properties
  split
  · exact reports_expansion _ _
  · exact (fails_mapM (fun _ => reports_expansion _ _) _).bind fun _ _ => fails_ok _

end Addition

/-! ## Definitions -/

namespace Assignment

lemma fails_step (formal : ∀ fault : StatementFault, fault.Formal → kind fault) (store : Store)
    (slots : List Slot) {token : Token}
    (literal : ∀ text, token = .value (.text text) → Fails kind (literalSlot (.text text)))
    (following : Option Token) : Fails kind (step store slots token following) := by
  unfold step
  split
  · rename_i scalar
    refine Fails.map ?_ _
    cases scalar with
    | text text => exact literal text rfl
    | _ => exact fails_ok _
  · exact fails_ok _
  · split
    · exact fails_error (formal _ trivial)
    · exact fails_ok _
  · split
    · exact fails_error (formal _ trivial)
    · exact fails_ok _
  · exact fails_ok _

lemma fails_slotsFrom (formal : ∀ fault : StatementFault, fault.Formal → kind fault)
    (store : Store) (slots : List Slot)
    (literals : ∀ text, .value (.text text) ∈ tokens → Fails kind (literalSlot (.text text))) :
    Fails kind (slotsFrom store slots tokens) := by
  induction tokens generalizing slots with
  | nil => exact fails_ok _
  | cons token tokens ih =>
    have first : Fails kind (step store slots token tokens.head?) :=
      fails_step formal store slots (fun text same => literals text (same ▸ List.mem_cons_self)) _
    exact first.bind fun slots _ =>
      ih slots fun text mem => literals text (List.mem_cons_of_mem _ mem)

lemma fails_read (formal : ∀ fault : StatementFault, fault.Formal → kind fault) (store : Store)
    (literals : ∀ text, .value (.text text) ∈ line → Fails kind (literalSlot (.text text))) :
    Fails kind (read store line) := by
  have single (names : List Text) : Fails kind (singleName names) := by
    unfold singleName
    split
    · exact fails_error (formal _ trivial)
    · exact fails_ok _
    · exact fails_error (formal _ trivial)
  refine (single _).bind fun name _ => Fails.bind ?_ fun slots _ => ?_
  · exact fails_slotsFrom formal store [] fun text mem => literals text (split_subset line mem)
  · split
    · exact fails_error (formal _ trivial)
    · exact fails_ok _

end Assignment

/-! ## Lines and programs -/

namespace Statement

lemma formal_refuseUnknown (keyword : Text) (line : List Token) :
    Fails StatementFault.Formal (refuseUnknown keyword line) := by
  unfold refuseUnknown
  split
  · exact fails_error trivial
  · exact fails_ok _

lemma formal_keyword (line : List Token) : Fails StatementFault.Formal (keyword line) := by
  unfold keyword
  split
  · exact fails_error trivial
  · exact fails_ok _
  · exact fails_error trivial

lemma formal_addition (store : Store) (line : List Token) :
    Fails StatementFault.Formal (addition store line) :=
  (formal_refuseUnknown _ _).bind fun _ _ => Addition.formal_read store line

lemma fails_effect (formal : ∀ fault : StatementFault, fault.Formal → kind fault)
    (properties : ∀ addition, Addition.read store line = .ok addition →
      Fails kind addition.properties)
    (literals : ∀ text, .value (.text text) ∈ line →
      Fails kind (Assignment.literalSlot (.text text))) :
    Fails kind (effect store line) := by
  refine ((formal_keyword line).mono formal).bind fun name _ => ?_
  split
  · refine ((formal_addition store line).mono formal).bind fun addition made => ?_
    obtain ⟨_, -, made⟩ := bind_eq_ok_iff.1 made
    exact (addition.fails_declarations store (properties addition made)).bind fun _ _ => fails_ok _
  split
  · have known := (formal_refuseUnknown "VAR" line).mono formal
    exact (known.bind fun _ _ => Assignment.fails_read formal store literals).bind fun _ _ =>
      fails_ok _
  split
  · exact fails_ok _
  · exact fails_error (formal _ trivial)

/-- `kind` is open so that one walk through the interpreter serves both questions: which faults are
reported (`reports_interpret`), and which are about the suffixes of a line. -/
theorem fails_interpret (formal : ∀ fault : StatementFault, fault.Formal → kind fault)
    (properties : ∀ addition, Addition.read store line = .ok addition →
      Fails kind addition.properties)
    (literals : ∀ text, .value (.text text) ∈ line →
      Fails kind (Assignment.literalSlot (.text text))) :
    Fails kind (interpret store line) := by
  unfold interpret
  split
  · exact fails_ok _
  · exact fails_ok _
  · exact fails_ok _
  · exact fails_effect formal properties literals

lemma reports_interpret (store : Store) (legible : ∀ token ∈ line, token.Legible) :
    Reports (interpret store line) := by
  refine fails_interpret (fun _ formal => formal.reported)
    (fun addition _ => addition.reports_properties) fun text mem => ?_
  obtain ⟨slot, read⟩ := legible _ mem
  rw [Assignment.literalSlot, read]
  exact fails_ok _

end Statement

/-- `Executed.stopped` hands the fault of the program over to one line, whose tokens are those of
the program (`Line.mem_of_mem_groupFrom`), and `Statement.reports_interpret` knows the faults of a
line. -/
theorem Program.reports_parse (store : Store) (legible : ∀ token ∈ tokens, token.Legible) :
    Reports (parse store tokens).1 := by
  intro fault failed
  obtain ⟨executed, pending, cut, h⟩ := executed_parse store tokens
  rcases h.stopped with ⟨-, _, succeeded⟩ | ⟨line, rest, _, rfl, same, refused⟩
  · simp [succeeded] at failed
  · obtain rfl := Except.error.inj (same.symm.trans failed)
    have grouped : line ∈ Line.group tokens := by simp [cut]
    refine Statement.reports_interpret _ (fun token mem => legible token ?_) _ refused
    exact (Line.mem_of_mem_groupFrom grouped mem).resolve_left (by simp)

end UtilityCss
