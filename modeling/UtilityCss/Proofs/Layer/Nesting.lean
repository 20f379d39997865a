import UtilityCss.Proofs.Layer.Contribution
import UtilityCss.Proofs.Record.Elision

/-!
# Layers inside one another

The layer records of a program are the markers among its tokens (`Program.mark?_run`).  Where these
are properly nested by name (`Nested`), layers with nothing but layers in them can all be deleted
(`Nested.deletesAll`).  So nothing is added by records whose keys are known already and whose layers
are nested (`Record.tidy_append_of_known`).
-/

namespace UtilityCss

variable {marks first second : List (Text × Edge)} {records more : List Record}
  {tokens current line : List Token}

/-- Ends of layers that are properly nested by name: between the start of a layer and its end, and
after its end, stand nested layers. -/
inductive Nested : List (Text × Edge) → Prop
  | nil : Nested []
  | layer (name : Text) {inner rest : List (Text × Edge)} (inside : Nested inner)
      (after : Nested rest) : Nested ((name, .start) :: (inner ++ (name, .stop) :: rest))

/-- The end of a layer that a token marks. -/
def Token.mark? : Token → Option (Text × Edge)
  | .layer name edge => some (name, edge)
  | _ => none

/-- The end of a layer that a record stands for. -/
def Record.mark? : Record → Option (Text × Edge)
  | .layer name edge => some (name, edge)
  | _ => none

/-- The record of an end of a layer. -/
def Record.ofMark (mark : Text × Edge) : Record := .layer mark.1 mark.2

lemma Nested.append (h : Nested first) (h' : Nested second) : Nested (first ++ second) := by
  induction h with
  | nil => exact h'
  | layer name inside _ _ after => simpa using Nested.layer name inside after

/-! ## Nested layers that are empty -/

/-- Nested layers with nothing else in them can be deleted, the innermost ones first; the induction
follows `Nested`. -/
theorem Nested.deletesAll (nested : Nested marks) :
    Record.DeletesAll (marks.map Record.ofMark) [] := by
  induction nested with
  | nil => exact .refl
  | @layer name inner rest inside after ihInside ihAfter =>
    have emptied : Record.DeletesAll
        ([.layer name .start] ++ (inner.map Record.ofMark ++
          .layer name .stop :: rest.map Record.ofMark))
        ([.layer name .start] ++ ([] ++ .layer name .stop :: rest.map Record.ofMark)) :=
      Record.DeletesAll.append .refl (ihInside.append .refl)
    have deleted : Record.Deletes
        ([.layer name .start] ++ ([] ++ .layer name .stop :: rest.map Record.ofMark))
        (rest.map Record.ofMark) := Record.Deletes.layer [] name _
    simpa [Record.ofMark] using (emptied.tail deleted).trans ihAfter

namespace Record

/-- `distinctFrom` drops repeated declarations and comments only, so that of records whose keys are
all known the layers are left. -/
lemma distinctFrom_of_known {seen : List (Text × List Text)}
    (known : ∀ key ∈ keys records, key ∈ seen) :
    distinctFrom seen records = (records.filterMap mark?).map ofMark := by
  induction records with
  | nil => rfl
  | cons record records ih =>
    have later : ∀ key ∈ keys records, key ∈ seen := by
      intro key mem
      obtain ⟨kept, found, same⟩ := List.mem_filterMap.1 mem
      exact known key (List.mem_filterMap.2 ⟨kept, List.mem_cons_of_mem _ found, same⟩)
    cases record with
    | layer name edge => simpa [distinctFrom, isRepeated, see, mark?, ofMark] using ih later
    | rule | comment =>
      have own := known _ (List.mem_filterMap.2 ⟨_, List.mem_cons_self, rfl⟩)
      simpa [distinctFrom, isRepeated, own, List.filterMap_cons, mark?] using ih later

lemma elideEmptyLayers_eq_of_deletesAll {fewer : List Record} (h : DeletesAll records fewer) :
    elideEmptyLayers records = elideEmptyLayers fewer := by
  induction h with
  | refl => rfl
  | tail _ step ih => exact ih.trans (elideEmptyLayers_eq_of_deletes step)

/-- After `distinctFrom_of_known`, only layers are left of the new records, and `Nested.deletesAll`
deletes them. -/
theorem tidy_append_of_known (known : ∀ key ∈ keys more, key ∈ keys records)
    (nested : Nested (more.filterMap mark?)) : tidy (records ++ more) = tidy records := by
  have layers : distinct (records ++ more) =
      distinct records ++ (more.filterMap mark?).map ofMark := by
    rw [distinct, distinctFrom_append, List.append_nil, distinctFrom_of_known known]
    rfl
  have deletions : DeletesAll (distinct (records ++ more)) (distinct records ++ []) :=
    layers ▸ DeletesAll.append .refl nested.deletesAll
  rw [tidy, elideEmptyLayers_eq_of_deletesAll deletions, List.append_nil, tidy]

end Record

/-! ## The layers of a program -/

lemma Lexer.Plain.mark?_eq_nil (plain : Lexer.Plain line) : line.filterMap Token.mark? = [] := by
  rw [List.filterMap_eq_nil_iff]
  intro token mem
  cases token with
  | layer name edge => exact absurd mem (plain name edge)
  | _ => rfl

/-- `Line.groupFrom` puts every marker on a line of its own, so the lines can be told apart by their
first token. -/
lemma Line.marker_or_plain (plain : Lexer.Plain current)
    (grouped : line ∈ Line.groupFrom current tokens) :
    (∃ name edge, line = [.layer name edge]) ∨ Lexer.Plain line := by
  have flushed {current : List Token} (plain : Lexer.Plain current)
      (last : line ∈ Line.flush current) : Lexer.Plain line := by
    unfold Line.flush at last
    split at last
    · simp at last
    · obtain rfl := List.mem_singleton.1 last
      intro name edge mem
      exact plain name edge (List.mem_reverse.1 mem)
  have empty : Lexer.Plain [] := by simp [Lexer.Plain]
  fun_induction Line.groupFrom current tokens with
  | case1 current => exact .inr (flushed plain grouped)
  | case2 current char tokens ih =>
    rcases List.mem_append.1 grouped with last | later
    · exact .inr (flushed plain last)
    · exact ih empty later
  | case3 current name edge tokens ih =>
    rcases List.mem_append.1 grouped with last | later
    · exact .inr (flushed plain last)
    · rcases List.mem_cons.1 later with rfl | later
      · exact .inl ⟨name, edge, rfl⟩
      · exact ih empty later
  | case4 current token tokens _ notLayer ih =>
    apply ih _ grouped
    intro name edge mem
    rcases List.mem_cons.1 mem with rfl | mem
    · exact notLayer name edge rfl
    · exact plain name edge mem

/-- Cutting tokens into lines drops nothing but line ends, and these are no markers. -/
lemma Line.mark?_groupFrom (current tokens : List Token) :
    (Line.groupFrom current tokens).flatMap (·.filterMap Token.mark?) =
      current.reverse.filterMap Token.mark? ++ tokens.filterMap Token.mark? := by
  have flushed (current : List Token) : (Line.flush current).flatMap (·.filterMap Token.mark?) =
      current.reverse.filterMap Token.mark? := by
    unfold Line.flush
    split
    · rename_i empty
      simp [empty]
    · simp
  fun_induction Line.groupFrom current tokens with
  | case1 current => simp [flushed]
  | case2 current char tokens ih =>
    rw [List.flatMap_append, flushed, ih]
    rfl
  | case3 current name edge tokens ih =>
    rw [List.flatMap_append, flushed, List.flatMap_cons, ih]
    rfl
  | case4 current token tokens _ notLayer ih =>
    have none : token.mark? = none := by
      cases token with
      | layer name edge => exact absurd rfl (notLayer name edge)
      | _ => rfl
    simp [ih, none]

lemma Statement.mark?_interpret {store : Store} {effect : Effect}
    (shape : (∃ name edge, line = [.layer name edge]) ∨ Lexer.Plain line)
    (taken : Statement.interpret store line = .ok effect) :
    effect.records.filterMap Record.mark? = line.filterMap Token.mark? := by
  rcases shape with ⟨name, edge, rfl⟩ | plain
  · obtain rfl := Except.ok.inj taken
    rfl
  · rw [plain.mark?_eq_nil, List.filterMap_eq_nil_iff]
    intro record mem
    cases record with
    | layer name edge => exact absurd mem (Statement.interpret_plain plain taken name edge)
    | _ => rfl

/-- By `Line.marker_or_plain` a line is a marker or has none, and `Statement.mark?_interpret` says
that it adds the layer records accordingly; so those of a program are the markers among its
tokens. -/
theorem Program.mark?_run {store final : Store}
    (ran : Program.run store (Line.group tokens) = (.ok records, final)) :
    records.filterMap Record.mark? = tokens.filterMap Token.mark? := by
  have shapes : ∀ line ∈ Line.group tokens,
      (∃ name edge, line = [.layer name edge]) ∨ Lexer.Plain line :=
    fun line => Line.marker_or_plain (by simp [Lexer.Plain])
  have whole : (Line.group tokens).flatMap (·.filterMap Token.mark?) =
      tokens.filterMap Token.mark? := Line.mark?_groupFrom [] tokens
  rw [← whole]
  generalize Line.group tokens = lines at ran shapes
  induction lines generalizing store records with
  | nil =>
    obtain rfl : [] = records := Except.ok.inj (Prod.mk.inj ran).1
    rfl
  | cons line lines ih =>
    obtain ⟨effect, rest, interpreted, after, rfl⟩ := Program.run_cons_eq_ok ran
    rw [List.filterMap_append, List.flatMap_cons,
      Statement.mark?_interpret (shapes line List.mem_cons_self) interpreted,
      ih after fun line mem => shapes line (List.mem_cons_of_mem _ mem)]

end UtilityCss
