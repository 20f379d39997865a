import UtilityCss.Proofs.Outcome
import UtilityCss.Proofs.Record.Elision
import UtilityCss.Statement.Program

/-!
# Programs in parts

What a single line can do is said once (`Statement.interpret_cases`, `Statement.effect_cases`).

A program may be cut at a line end.  Its lines are those of the parts (`Line.group_append_newline`),
and interpreting them means interpreting the first part and then the second against the store that
the first one left (`Program.run_append_of_ok`).  The records of both parts still have to be tidied
together, but they may be tidied on their own before (`Record.tidy_append`).
-/

namespace UtilityCss

/-! ## Lines -/

namespace Line

variable {current first rest : List Token} {lines : List (List Token)}

/-- `cut` says that `rest` begins by ending the line that is gathered, whichever that is; a line end
does so, and so does a layer marker (`group_append_newline`, `group_append_layer`). -/
lemma groupFrom_append (cut : ∀ current, groupFrom current rest = flush current ++ lines) :
    groupFrom current (first ++ rest) = groupFrom current first ++ lines := by
  fun_induction groupFrom current first with
  | case1 current => exact cut current
  | case2 current char first ih =>
    rw [List.cons_append, groupFrom, ih, List.append_assoc]
  | case3 current name edge first ih =>
    rw [List.cons_append, groupFrom, ih, List.append_assoc, List.cons_append]
  | case4 current token first notNewline notLayer ih =>
    rw [List.cons_append, groupFrom, ih]
    · exact notNewline
    · exact notLayer

theorem group_append_newline (first second : List Token) :
    group (first ++ .newline :: second) = group first ++ group second :=
  groupFrom_append fun _ => rfl

lemma group_append_layer (first second : List Token) (name : Text) (edge : Edge) :
    group (first ++ .layer name edge :: second) =
      group first ++ [.layer name edge] :: group second :=
  groupFrom_append fun _ => rfl

/-- `groupFrom` drops line ends and adds no token, so that what holds of all tokens of a program
holds of those of a line. -/
lemma mem_of_mem_groupFrom {line tokens : List Token} {token : Token}
    (grouped : line ∈ groupFrom current tokens) (mem : token ∈ line) :
    token ∈ current ∨ token ∈ tokens := by
  have flushed {current : List Token} (last : line ∈ flush current) : token ∈ current := by
    unfold flush at last
    split at last
    · simp at last
    · obtain rfl := List.mem_singleton.1 last
      exact List.mem_reverse.1 mem
  fun_induction groupFrom current tokens with
  | case1 current => exact .inl (flushed grouped)
  | case2 current char tokens ih =>
    rcases List.mem_append.1 grouped with last | later
    · exact .inl (flushed last)
    · exact .inr (List.mem_cons_of_mem _ ((ih later).resolve_left (by simp)))
  | case3 current name edge tokens ih =>
    rcases List.mem_append.1 grouped with last | later
    · exact .inl (flushed last)
    · rcases List.mem_cons.1 later with rfl | later
      · obtain rfl := List.mem_singleton.1 mem
        exact .inr List.mem_cons_self
      · exact .inr (List.mem_cons_of_mem _ ((ih later).resolve_left (by simp)))
  | case4 current next tokens _ _ ih =>
    rcases ih grouped with here | later
    · rcases List.mem_cons.1 here with rfl | here
      · exact .inr List.mem_cons_self
      · exact .inl here
    · exact .inr (List.mem_cons_of_mem _ later)

end Line

/-! ## Statements -/

lemma Assignment.split_subset (line : List Token) : (split line).2 ⊆ line := by
  unfold split
  split
  · rename_i mark value shape
    have left : mark :: value <:+ line := shape ▸ List.dropWhile_suffix _
    exact ((List.suffix_cons mark value).trans left).subset
  split
  · rename_i head value shape
    have left : head :: value <:+ line := shape ▸ List.dropWhile_suffix _
    exact ((List.suffix_cons head value).trans left).subset
  · exact List.nil_subset _

lemma Assignment.singleName_eq_ok {names : List Text} {name : Text}
    (h : singleName names = .ok name) : names = [name] := by
  match names, h with
  | [_], h => rw [Except.ok.inj h]

lemma Addition.findSome?_of_atMostOne {α : Type} {view : Token → Option α}
    {line : List Token} {fault : StatementFault} {found : Option α}
    (single : Addition.atMostOne fault (line.filterMap view) = .ok found) :
    line.findSome? view = found := by
  rw [← List.head?_filterMap]
  generalize line.filterMap view = all at single
  match all, single with
  | [], single => exact Except.ok.inj single
  | [_], single => exact Except.ok.inj single

lemma Addition.media_of_read {store : Store} {line : List Token} {addition : Addition}
    (read : Addition.read store line = .ok addition) :
    addition.media = line.findSome? MediaWidth.ofToken? := by
  obtain ⟨property, -, read⟩ := bind_eq_ok_iff.1 read
  obtain ⟨gathered, -, read⟩ := bind_eq_ok_iff.1 read
  split at read
  · simp at read
  · obtain ⟨pseudoClass, -, read⟩ := bind_eq_ok_iff.1 read
    obtain ⟨media, single, read⟩ := bind_eq_ok_iff.1 read
    obtain rfl := Except.ok.inj read
    exact (findSome?_of_atMostOne single).symm

lemma Assignment.literalSlot_text {text : Text} {slot : Slot} :
    literalSlot (.text text) = .ok slot ↔ Slot.read text = .ok slot := by
  rw [literalSlot]
  cases Slot.read text with
  | ok read =>
    constructor
    · intro made
      rw [Except.ok.inj made]
    · intro made
      rw [Except.ok.inj made]
      rfl
  | error fault => exact ⟨nofun, nofun⟩

/-- The two tests of `Assignment.read`, in the order in which it makes them: `singleName` on the
tokens before the equals sign, and that there are slots. -/
lemma Assignment.declared_of_read {store : Store} {line : List Token} {assignment : Assignment}
    (read : Assignment.read store line = .ok assignment) :
    (split line).1 = [assignment.name] ∧ assignment.slots ≠ [] := by
  obtain ⟨name, single, read⟩ := bind_eq_ok_iff.1 read
  obtain ⟨slots, -, read⟩ := bind_eq_ok_iff.1 read
  split at read
  · simp at read
  · rename_i given
    obtain rfl := Except.ok.inj read
    exact ⟨singleName_eq_ok single, by simpa using given⟩

namespace Statement

variable {store : Store} {line : List Token} {effect : Effect}

lemma exists_comment_of_mem {record : Record} (mem : record ∈ line.filterMap comment?) :
    ∃ text, record = .comment text := by
  obtain ⟨token, -, copied⟩ := List.mem_filterMap.1 mem
  unfold comment? at copied
  split at copied
  · exact ⟨_, (Option.some.inj copied).symm⟩
  · simp at copied

/-- All that `Statement.effect` can do, by its one keyword.  Comments are copied in every case, in
front of the rules. -/
theorem effect_cases (taken : Statement.effect store line = .ok effect) :
    (∃ addition names, keyword line = .ok "ADD" ∧ Statement.addition store line = .ok addition ∧
      addition.properties = .ok names ∧ effect =
        ⟨line.filterMap comment? ++ (names.map (addition.declaration store)).map .rule, none⟩) ∨
    (∃ made, keyword line = .ok "VAR" ∧ Statement.assignment store line = .ok made ∧
      effect = ⟨line.filterMap comment?, some made⟩) ∨
    ∃ name, keyword line = .ok name ∧ (name = "IMPORT" ∨ name = "TEMPLATE") ∧
      effect = ⟨line.filterMap comment?, none⟩ := by
  obtain ⟨name, single, taken⟩ := bind_eq_ok_iff.1 taken
  split at taken
  · rename_i add
    obtain ⟨addition, read, taken⟩ := bind_eq_ok_iff.1 taken
    obtain ⟨declarations, made, taken⟩ := bind_eq_ok_iff.1 taken
    obtain ⟨names, named, made⟩ := bind_eq_ok_iff.1 made
    obtain rfl := Except.ok.inj made
    exact .inl ⟨addition, names, add ▸ single, read, named, (Except.ok.inj taken).symm⟩
  split at taken
  · rename_i var
    obtain ⟨made, read, taken⟩ := bind_eq_ok_iff.1 taken
    exact .inr (.inl ⟨made, var ▸ single, read, (Except.ok.inj taken).symm⟩)
  split at taken
  · rename_i directive
    exact .inr (.inr ⟨name, single, directive, (Except.ok.inj taken).symm⟩)
  · simp at taken

/-- Markers and comments on lines of their own are the branches of `interpret` without a keyword.
They make neither rules nor bindings, so that what is said of these starts from `effect_cases`. -/
theorem interpret_cases (interpreted : interpret store line = .ok effect) :
    (effect.assignment = none ∧ ∀ declaration, .rule declaration ∉ effect.records) ∨
      Statement.effect store line = .ok effect := by
  unfold interpret at interpreted
  split at interpreted
  · obtain rfl := Except.ok.inj interpreted
    exact .inl ⟨rfl, by simp⟩
  · obtain rfl := Except.ok.inj interpreted
    exact .inl ⟨rfl, by simp⟩
  · obtain rfl := Except.ok.inj interpreted
    exact .inl ⟨rfl, by simp⟩
  · exact .inr interpreted

/-- Only the first of the `effect_cases` makes rules; the other records of a line are comments
(`exists_comment_of_mem`). -/
lemma exists_addition_of_mem {declaration : Declaration}
    (interpreted : interpret store line = .ok effect) (mem : .rule declaration ∈ effect.records) :
    ∃ addition names property, Statement.addition store line = .ok addition ∧
      addition.properties = .ok names ∧ property ∈ names ∧
      declaration = addition.declaration store property := by
  have plain : .rule declaration ∉ line.filterMap comment? := by
    intro mem
    obtain ⟨text, same⟩ := exists_comment_of_mem mem
    simp at same
  rcases interpret_cases interpreted with ⟨-, none⟩ | taken
  · exact absurd mem (none declaration)
  rcases effect_cases taken with
    ⟨addition, names, -, read, named, rfl⟩ | ⟨made, -, -, rfl⟩ | ⟨word, -, -, rfl⟩
  · simp only [List.mem_append, plain, false_or, List.mem_map, Record.rule.injEq,
      exists_eq_right] at mem
    obtain ⟨property, listed, rfl⟩ := mem
    exact ⟨addition, names, property, read, named, listed, rfl⟩
  · exact absurd mem plain
  · exact absurd mem plain

end Statement

/-! ## Interpretation -/

namespace Program

variable {store between final : Store} {line : List Token} {first second : List (List Token)}
  {effect : Effect} {fault : StatementFault} {records : List Record}

lemma run_cons_of_ok (interpreted : Statement.interpret store line = .ok effect) :
    run store (line :: first) =
      ((run (effect.store store) first).1.map (effect.records ++ ·),
        (run (effect.store store) first).2) := by
  rw [run, interpreted]

lemma run_cons_of_error (refused : Statement.interpret store line = .error fault) :
    run store (line :: first) = (.error fault, store) := by
  rw [run, refused]

/-- The inversion of `run_cons_of_ok`, which inductions on an accepted run start from: the first
line is accepted, and the others by the store that it leaves. -/
lemma run_cons_eq_ok (ran : run store (line :: first) = (.ok records, final)) :
    ∃ effect rest, Statement.interpret store line = .ok effect ∧
      run (effect.store store) first = (.ok rest, final) ∧ records = effect.records ++ rest := by
  cases interpreted : Statement.interpret store line with
  | error refusal => simp [run_cons_of_error interpreted] at ran
  | ok effect =>
    rw [run_cons_of_ok interpreted] at ran
    obtain ⟨result, after⟩ := Prod.mk.inj ran
    cases rest : run (effect.store store) first with
    | mk inner left =>
      rw [rest] at result after
      cases inner with
      | error refusal => simp [Except.map] at result
      | ok inside =>
        obtain rfl : left = final := after
        exact ⟨effect, inside, rfl, rest, (by simpa [Except.map] using result.symm)⟩

/-- `run` stops at the first refusal (`run_cons_of_error`) and never looks at what follows it. -/
lemma run_append_of_error (ran : run store first = (.error fault, final)) :
    run store (first ++ second) = (.error fault, final) := by
  induction first generalizing store with
  | nil => simp [run] at ran
  | cons line first ih =>
    rw [List.cons_append]
    cases interpreted : Statement.interpret store line with
    | error refusal =>
      rw [run_cons_of_error interpreted] at ran ⊢
      exact ran
    | ok effect =>
      rw [run_cons_of_ok interpreted] at ran ⊢
      obtain ⟨result, after⟩ := Prod.mk.inj ran
      cases rest : run (effect.store store) first with
      | mk inner left =>
        rw [rest] at result after
        cases inner with
        | ok records => simp [Except.map] at result
        | error refusal =>
          obtain rfl : refusal = fault := by simpa [Except.map] using result
          obtain rfl : left = final := after
          rw [ih rest]
          rfl

/-- The state between the parts is the store and nothing else: `run` reads the second part from
`between`, whatever lines have led there. -/
theorem run_append_of_ok (ran : run store first = (.ok records, between)) :
    run store (first ++ second) =
      ((run between second).1.map (records ++ ·), (run between second).2) := by
  induction first generalizing store records with
  | nil =>
    obtain ⟨rfl, rfl⟩ : [] = records ∧ store = between := by simpa [run] using ran
    rw [List.nil_append]
    cases run store second with
    | mk result final => cases result <;> rfl
  | cons line first ih =>
    obtain ⟨effect, inside, interpreted, rest, rfl⟩ := run_cons_eq_ok ran
    rw [List.cons_append, run_cons_of_ok interpreted, ih rest]
    cases run between second with
    | mk result final => cases result <;> simp [Except.map]

/-- The inversion of `run_append_of_ok`; the first part cannot have failed, by
`run_append_of_error`. -/
lemma run_append_eq_ok (ran : run store (first ++ second) = (.ok records, final)) :
    ∃ inner between outer, run store first = (.ok inner, between) ∧
      run between second = (.ok outer, final) ∧ records = inner ++ outer := by
  cases start : run store first with
  | mk result between =>
    cases result with
    | error fault => simp [run_append_of_error start] at ran
    | ok inner =>
      rw [run_append_of_ok start] at ran
      obtain ⟨result, after⟩ := Prod.mk.inj ran
      cases rest : run between second with
      | mk outcome left =>
        rw [rest] at result after
        cases outcome with
        | error fault => simp [Except.map] at result
        | ok outer =>
          obtain rfl : left = final := after
          exact ⟨inner, between, outer, rfl, rest, (by simpa [Except.map] using result.symm)⟩

lemma parse_of_run {tokens : List Token} {result : Except StatementFault (List Record)}
    (ran : run store (Line.group tokens) = (result, final)) :
    parse store tokens = (result.map Record.tidy, final) := by
  rw [parse, ran]

lemma parse_eq_ok {tokens : List Token} (parsed : parse store tokens = (.ok records, final)) :
    ∃ all, run store (Line.group tokens) = (.ok all, final) ∧ records = Record.tidy all := by
  cases ran : run store (Line.group tokens) with
  | mk result left =>
    rw [parse_of_run ran] at parsed
    obtain ⟨tidied, rfl⟩ := Prod.mk.inj parsed
    obtain ⟨all, rfl, rfl⟩ := map_eq_ok_iff.1 tidied
    exact ⟨all, rfl, rfl⟩

/-- A program of one line is `Statement.interpret` on that line, up to `Record.tidy`. -/
lemma parse_line_eq_ok {tokens : List Token} (single : Line.group tokens = [line]) :
    parse store tokens = (.ok records, final) ↔
      ∃ effect, Statement.interpret store line = .ok effect ∧
        records = Record.tidy effect.records ∧ final = effect.store store := by
  constructor
  · intro parsed
    obtain ⟨all, ran, rfl⟩ := parse_eq_ok parsed
    rw [single] at ran
    obtain ⟨effect, rest, interpreted, after, rfl⟩ := run_cons_eq_ok ran
    obtain ⟨none, rfl⟩ := Prod.mk.inj after
    obtain rfl := Except.ok.inj none
    exact ⟨effect, interpreted, by rw [List.append_nil], rfl⟩
  · rintro ⟨effect, interpreted, rfl, rfl⟩
    have ran : run store [line] = (.ok (effect.records ++ []), effect.store store) :=
      run_cons_of_ok interpreted
    rw [List.append_nil] at ran
    exact parse_of_run (single ▸ ran)

/-- A program that is cut at a line end is parsed part by part (`run_append_of_ok`).  The records of
the parts are tidied once more when they are put together, since the second part may repeat what the
first one says (`Record.tidy_append`). -/
theorem parse_append_newline (store : Store) (first second : List Token) :
    parse store (first ++ [.newline] ++ second) =
      match parse store first with
      | (.error fault, final) => (.error fault, final)
      | (.ok records, between) =>
        match parse between second with
        | (.error fault, final) => (.error fault, final)
        | (.ok more, final) =>
          (.ok (Record.elideEmptyLayers (Record.distinct (records ++ more))), final) := by
  have lines : Line.group (first ++ [.newline] ++ second) =
      Line.group first ++ Line.group second := by
    rw [List.append_assoc, List.singleton_append, Line.group_append_newline]
  cases ran : run store (Line.group first) with
  | mk result between =>
    cases result with
    | error fault =>
      rw [parse_of_run ran, parse_of_run (lines ▸ run_append_of_error ran)]
      rfl
    | ok records =>
      rw [parse_of_run ran, parse_of_run (lines ▸ run_append_of_ok ran)]
      cases ran : run between (Line.group second) with
      | mk result final =>
        simp only [Except.map, parse_of_run ran]
        cases result with
        | error fault => rfl
        | ok more =>
          simp only
          rw [← Record.tidy_append records more, Record.tidy]

end Program

end UtilityCss
