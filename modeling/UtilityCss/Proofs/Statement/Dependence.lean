import UtilityCss.Proofs.Statement.Atomicity

/-!
# What a program reads of the store

A line looks at the store only for the variables that its tokens refer to, as a value or as a media
width.  Stores that bind these alike, or both not at all, give the line the same effect, and refuse
it with the same fault (`Statement.interpret_congr`).

A program asks the store that it starts from only for the names that it refers to before it defines
them (`Program.reads`).  After a definition the name is bound by the program itself, so it does not
matter any more how the two stores bound it: agreement on what is still to be read is carried from
line to line, and the names that were defined on the way are added to it (`Program.run_congr`).
-/

namespace UtilityCss

/-- The variable that a token refers to, as a value or as a media width. -/
def Token.reference? : Token → Option Text
  | .variableRef name _ => some name
  | .mediaVariableRef name => some name
  | _ => none

/-- The stores bind each of the names to the same slots, or neither binds it. -/
def Store.AgreeOn (names : List Text) (store other : Store) : Prop :=
  ∀ name ∈ names, store.slots? name = other.slots? name

variable {store other : Store} {line tokens : List Token}

lemma Store.AgreeOn.subset {names fewer : List Text} (agree : AgreeOn names store other)
    (inside : fewer ⊆ names) : AgreeOn fewer store other :=
  fun name mem => agree name (inside mem)

lemma Token.mem_references {token : Token} {name : Text} (mem : token ∈ line)
    (refers : token.reference? = some name) : name ∈ line.filterMap reference? :=
  List.mem_filterMap.2 ⟨token, mem, refers⟩

/-! ## Values -/

lemma Gathered.step_congr {gathered : Gathered} {previous following : Option Token}
    {token : Token}
    (agree : ∀ name, token.reference? = some name → store.slots? name = other.slots? name) :
    gathered.step store previous token following =
      gathered.step other previous token following := by
  cases token with
  | variableRef name unit =>
    simp only [step]
    rw [agree name rfl]
  | symbol kind char => cases kind <;> rfl
  | _ => rfl

lemma Gathered.gather_congr {gathered : Gathered} {previous : Option Token}
    (agree : store.AgreeOn (tokens.filterMap Token.reference?) other) :
    gathered.gather store previous tokens = gathered.gather other previous tokens := by
  induction tokens generalizing gathered previous with
  | nil => rfl
  | cons token tokens ih =>
    have later : store.AgreeOn (tokens.filterMap Token.reference?) other :=
      agree.subset (List.filterMap_subset _ (List.subset_cons_self token tokens))
    rw [gather, gather, step_congr fun name refers =>
      agree name (Token.mem_references List.mem_cons_self refers)]
    exact bind_congr fun next => ih later

lemma Addition.read_congr (agree : store.AgreeOn (line.filterMap Token.reference?) other) :
    Addition.read store line = Addition.read other line := by
  unfold Addition.read
  rw [Gathered.gather_congr agree]

/-- The width is the one thing that is looked up after `Addition.read`, and `Token.reference?`
counts it among the references of the line. -/
lemma Addition.condition_congr {addition : Addition}
    (agree : store.AgreeOn (line.filterMap Token.reference?) other)
    (read : Addition.read store line = .ok addition) :
    addition.media.bind (·.condition store) = addition.media.bind (·.condition other) := by
  rw [Addition.media_of_read read]
  cases found : line.findSome? MediaWidth.ofToken? with
  | none => rfl
  | some width =>
    obtain ⟨token, mem, shape⟩ := List.exists_of_findSome?_eq_some found
    unfold MediaWidth.ofToken? at shape
    split at shape
    · obtain rfl := Option.some.inj shape
      rfl
    · obtain rfl := Option.some.inj shape
      simp only [Option.bind_some, MediaWidth.condition, Store.get?]
      rw [agree _ (Token.mem_references mem rfl)]
    · simp at shape

lemma Addition.declarations_congr {addition : Addition}
    (agree : store.AgreeOn (line.filterMap Token.reference?) other)
    (read : Addition.read store line = .ok addition) :
    addition.declarations store = addition.declarations other := by
  have same : addition.declaration store = addition.declaration other := by
    funext property
    simp only [Addition.declaration, condition_congr agree read]
  rw [Addition.declarations, Addition.declarations, same]

/-! ## Definitions -/

lemma Assignment.step_congr {slots : List Slot} {token : Token} {following : Option Token}
    (agree : ∀ name, token.reference? = some name → store.slots? name = other.slots? name) :
    Assignment.step store slots token following = Assignment.step other slots token following := by
  cases token with
  | variableRef name unit =>
    simp only [step]
    rw [agree name rfl]
  | symbol kind char => cases kind <;> rfl
  | _ => rfl

lemma Assignment.slotsFrom_congr {slots : List Slot}
    (agree : store.AgreeOn (tokens.filterMap Token.reference?) other) :
    slotsFrom store slots tokens = slotsFrom other slots tokens := by
  induction tokens generalizing slots with
  | nil => rfl
  | cons token tokens ih =>
    have later : store.AgreeOn (tokens.filterMap Token.reference?) other :=
      agree.subset (List.filterMap_subset _ (List.subset_cons_self token tokens))
    rw [slotsFrom, slotsFrom, step_congr fun name refers =>
      agree name (Token.mem_references List.mem_cons_self refers)]
    exact bind_congr fun next => ih later

lemma Assignment.read_congr (agree : store.AgreeOn (line.filterMap Token.reference?) other) :
    Assignment.read store line = Assignment.read other line := by
  have value : store.AgreeOn ((split line).2.filterMap Token.reference?) other :=
    agree.subset (List.filterMap_subset _ (Assignment.split_subset line))
  unfold Assignment.read
  simp only [slotsFrom_congr value]

/-! ## Lines -/

namespace Statement

/-- The names that a line declares, if it defines a variable. -/
def declared (line : List Token) : List Text :=
  if isDefinition line then (Assignment.split line).1 else []

lemma addition_congr (agree : store.AgreeOn (line.filterMap Token.reference?) other) :
    addition store line = addition other line := by
  unfold addition
  rw [Addition.read_congr agree]

lemma assignment_congr (agree : store.AgreeOn (line.filterMap Token.reference?) other) :
    assignment store line = assignment other line := by
  unfold assignment
  rw [Assignment.read_congr agree]

lemma effect_congr (agree : store.AgreeOn (line.filterMap Token.reference?) other) :
    effect store line = effect other line := by
  unfold effect
  refine bind_congr fun name => ?_
  rw [assignment_congr agree, ← addition_congr agree]
  split
  · cases added : addition store line with
    | error fault => rfl
    | ok found =>
      obtain ⟨_, -, read⟩ := bind_eq_ok_iff.1 added
      simp only [bind, Except.bind]
      rw [Addition.declarations_congr agree read]
  · rfl

/-- Equality of results, faults included, where `Statement.interpret_extends` has only that what is
accepted stays so: the stores must agree on unbound names as well. -/
theorem interpret_congr (agree : store.AgreeOn (line.filterMap Token.reference?) other) :
    interpret store line = interpret other line := by
  unfold interpret
  split
  · rfl
  · rfl
  · rfl
  · exact effect_congr agree

/-- `declared` is read off the tokens and the effect is what the interpreter makes of them;
`Assignment.declared_of_read` says that they name the same variable. -/
lemma declared_of_interpret {effect : Effect} (interpreted : interpret store line = .ok effect) :
    declared line = effect.assignment.toList.map Assignment.name := by
  unfold declared
  rcases assignment_of_interpret interpreted with ⟨defines, made, read, same⟩ | ⟨no, same⟩
  · rw [if_pos defines, same, (Assignment.declared_of_read read).1]
    rfl
  · rw [no, same]
    rfl

end Statement

/-- The name that the line defines gets its slots from the effect, so that the stores agree on it
whatever they said before (`Store.Sets`). -/
lemma Effect.store_congr (effect : Effect) {name : Text}
    (agree : store.slots? name = other.slots? name ∨
      name ∈ effect.assignment.toList.map Assignment.name) :
    (effect.store store).slots? name = (effect.store other).slots? name := by
  unfold Effect.store
  cases made : effect.assignment with
  | none => simpa [made] using agree
  | some assignment =>
    simp only [(assignment.sets_apply _).slots]
    split
    · rfl
    · rename_i apart
      exact agree.resolve_right (by simpa [made] using apart)

/-! ## Programs -/

namespace Program

/-- The names that lines refer to before a definition among the lines declares them, where some
names are bound already. -/
def reads (bound : List Text) : List (List Token) → List Text
  | [] => []
  | line :: lines =>
    (line.filterMap Token.reference?).filter (· ∉ bound) ++
      reads (Statement.declared line ++ bound) lines

/-- The names that lines define, up to the first one that is refused. -/
def defines (store : Store) : List (List Token) → List Text
  | [] => []
  | line :: lines =>
    match Statement.interpret store line with
    | .error _ => []
    | .ok effect => Statement.declared line ++ defines (effect.store store) lines

lemma defines_cons_of_ok {effect : Effect} {lines : List (List Token)}
    (interpreted : Statement.interpret store line = .ok effect) :
    defines store (line :: lines) =
      Statement.declared line ++ defines (effect.store store) lines := by
  rw [defines, interpreted]

lemma defines_cons_of_error {fault : StatementFault} {lines : List (List Token)}
    (refused : Statement.interpret store line = .error fault) :
    defines store (line :: lines) = [] := by
  rw [defines, refused]

/-- What the stores must agree on for lines to run alike, where some names are bound already. -/
def Alike (bound : List Text) (lines : List (List Token)) (store other : Store) : Prop :=
  store.AgreeOn (bound ++ reads bound lines) other

lemma Alike.references {bound : List Text} {lines : List (List Token)}
    (alike : Alike bound (line :: lines) store other) :
    store.AgreeOn (line.filterMap Token.reference?) other := by
  intro name mem
  refine alike name ?_
  by_cases known : name ∈ bound
  · exact List.mem_append_left _ known
  · exact List.mem_append_right _ (List.mem_append_left _ (by simp [mem, known]))

/-- What the other lines read is part of what was agreed on, but for the name that this line
declares, and on that `Effect.store_congr` makes the stores agree. -/
lemma Alike.step {bound : List Text} {lines : List (List Token)} {effect : Effect}
    (alike : Alike bound (line :: lines) store other)
    (interpreted : Statement.interpret store line = .ok effect) :
    Alike (Statement.declared line ++ bound) lines (effect.store store) (effect.store other) := by
  intro name mem
  apply effect.store_congr
  rw [← Statement.declared_of_interpret interpreted]
  rw [List.append_assoc, List.mem_append, List.mem_append] at mem
  rcases mem with here | before | later
  · exact .inr here
  · exact .inl (alike name (List.mem_append_left _ before))
  · exact .inl (alike name (List.mem_append_right _ (List.mem_append_right _ later)))

/-- Induction on the lines with `Alike`, which grows by the names that are defined on the way
(`Alike.step`). -/
theorem run_congr {bound : List Text} {lines : List (List Token)}
    (alike : Alike bound lines store other) :
    (run store lines).1 = (run other lines).1 ∧ defines store lines = defines other lines ∧
      ∀ name, store.slots? name = other.slots? name ∨ name ∈ defines store lines →
        (run store lines).2.slots? name = (run other lines).2.slots? name := by
  induction lines generalizing bound store other with
  | nil => exact ⟨rfl, rfl, fun name agree => agree.resolve_right (by simp [defines])⟩
  | cons line lines ih =>
    have same := Statement.interpret_congr alike.references
    cases interpreted : Statement.interpret store line with
    | error fault =>
      have refused := same.symm.trans interpreted
      rw [run_cons_of_error interpreted, run_cons_of_error refused,
        defines_cons_of_error interpreted, defines_cons_of_error refused]
      exact ⟨rfl, rfl, fun name agree => agree.resolve_right (by simp)⟩
    | ok effect =>
      have accepted := same.symm.trans interpreted
      obtain ⟨results, names, stores⟩ := ih (alike.step interpreted)
      rw [run_cons_of_ok interpreted, run_cons_of_ok accepted,
        defines_cons_of_ok interpreted, defines_cons_of_ok accepted]
      refine ⟨by rw [results], by rw [names], fun name agree => stores name ?_⟩
      rw [List.mem_append, ← or_assoc] at agree
      rcases agree with agree | later
      · refine .inl (effect.store_congr ?_)
        rwa [← Statement.declared_of_interpret interpreted]
      · exact .inr later

/-- A program depends on the store only through the names that it refers to before it defines them
(`reads`): stores that agree on these give the same records or the same fault, and they agree
afterwards on the names that they agreed on before and on the names that the program defined. -/
theorem parse_reads (tokens : List Token) (store other : Store)
    (agree : ∀ name ∈ reads [] (Line.group tokens), store.slots? name = other.slots? name) :
    (parse store tokens).1 = (parse other tokens).1 ∧
      defines store (Line.group tokens) = defines other (Line.group tokens) ∧
      ∀ name, store.slots? name = other.slots? name ∨ name ∈ defines store (Line.group tokens) →
        (parse store tokens).2.slots? name = (parse other tokens).2.slots? name := by
  have alike : Alike [] (Line.group tokens) store other := agree
  obtain ⟨results, names, stores⟩ := run_congr alike
  rw [parse_of_run rfl, parse_of_run rfl]
  exact ⟨by rw [results], names, stores⟩

/-! ## A program that reads two names

It refers to `gap` and to the width `narrow`, and to `edge` only after the definition.  The stores
bind `edge` differently, `gap` alike and `narrow` not at all, and one of them binds a name that the
program does not mention. -/

def boundFirst : List Token :=
  [.keyword "VAR", .variable "edge", .equals, .variableRef "gap" (some "em"), .newline,
    .keyword "ADD", .property "border", .variableRef "edge" none, .mediaVariableRef "narrow"]

def wideEdge : Store :=
  ⟨[("edge", [⟨.integer 9, some "px"⟩]), ("gap", [⟨.integer 4, none⟩])]⟩

def unusedTint : Store :=
  ⟨[("tint", [⟨.text "red", none⟩]), ("gap", [⟨.integer 4, none⟩]), ("edge", [])]⟩

theorem parse_reads_boundFirst :
    reads [] (Line.group boundFirst) = ["gap".toList, "narrow".toList] ∧
      defines wideEdge (Line.group boundFirst) = ["edge".toList] ∧
      (parse wideEdge boundFirst).1 = (parse unusedTint boundFirst).1 ∧
      (parse wideEdge boundFirst).2.slots? "edge" =
        (parse unusedTint boundFirst).2.slots? "edge" := by
  have read : reads [] (Line.group boundFirst) = ["gap".toList, "narrow".toList] := rfl
  have defined : defines wideEdge (Line.group boundFirst) = ["edge".toList] := rfl
  have agree : ∀ name ∈ reads [] (Line.group boundFirst),
      wideEdge.slots? name = unusedTint.slots? name := by
    rw [read]
    decide
  obtain ⟨results, -, stores⟩ := parse_reads boundFirst wideEdge unusedTint agree
  exact ⟨read, defined, results, stores "edge" (.inr (by rw [defined]; decide))⟩

end Program

end UtilityCss
