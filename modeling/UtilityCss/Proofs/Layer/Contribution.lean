import UtilityCss.Proofs.Layer.Span
import UtilityCss.Proofs.Outcome
import UtilityCss.Proofs.Statement.Composition
import UtilityCss.Proofs.Token.Marker

/-!
# What each file contributes to a program

The text of a bundle is one program, in which the blocks of the files follow each other.  It is read
and interpreted block by block: the body of a file is read where it stands, after the tokens of the
files before it, and its lines are interpreted against the store that those files left
(`Contributes`).  The records of the program are then those of the files in the same order, each
between the two ends of its layer (`contributes_of_run`).

This needs blocks without layer markers of their own.  Lines without a marker add no layer records
(`Program.run_plain`), so the only ones are those of the blocks.
-/

namespace UtilityCss

variable {prior new tokens current line : List Token} {store final : Store} {effect : Effect}
  {records : List Record} {lines : List (List Token)}

/-! ## Lines without markers -/

/-- `Record.layer` comes from markers only, which `Statement.interpret` takes before `effect` is
asked. -/
lemma Statement.effect_plain (h : Statement.effect store line = .ok effect) (name : Text)
    (edge : Edge) : .layer name edge ∉ effect.records := by
  have comments : .layer name edge ∉ line.filterMap Statement.comment? := by
    intro mem
    obtain ⟨text, same⟩ := Statement.exists_comment_of_mem mem
    simp at same
  rcases Statement.effect_cases h with
    ⟨addition, names, -, -, -, rfl⟩ | ⟨made, -, -, rfl⟩ | ⟨word, -, -, rfl⟩
  · simp [comments]
  · exact comments
  · exact comments

lemma Statement.interpret_plain (plain : Lexer.Plain line)
    (h : Statement.interpret store line = .ok effect) (name : Text) (edge : Edge) :
    .layer name edge ∉ effect.records := by
  unfold Statement.interpret at h
  split at h
  · rename_i own end_ rest
    exact absurd List.mem_cons_self (plain own end_)
  · obtain rfl := Except.ok.inj h
    simp
  · obtain rfl := Except.ok.inj h
    simp
  · exact Statement.effect_plain h name edge

/-- `Statement.interpret_plain` for all lines: what stands between the two markers of a block is the
contribution of its file, and holds no layer of its own. -/
theorem Program.run_plain (plain : ∀ line ∈ lines, Lexer.Plain line)
    (ran : Program.run store lines = (.ok records, final)) (name : Text) (edge : Edge) :
    .layer name edge ∉ records := by
  induction lines generalizing store records with
  | nil =>
    obtain rfl : [] = records := (Except.ok.inj (Prod.mk.inj ran).1)
    simp
  | cons line lines ih =>
    obtain ⟨effect, rest, interpreted, after, rfl⟩ := Program.run_cons_eq_ok ran
    rw [List.mem_append, not_or]
    exact ⟨Statement.interpret_plain (plain line List.mem_cons_self) interpreted name edge,
      ih (fun line mem => plain line (List.mem_cons_of_mem _ mem)) after⟩

/-! ## Block by block -/

/-- What the block of a file amounts to. -/
structure Contribution where
  block : Block
  /-- The tokens of the body. -/
  tokens : List Token
  /-- The records that the lines of the body amount to. -/
  records : List Record
  /-- No layer begins or ends inside the body. -/
  plain : ∀ name edge, .layer name edge ∉ records

/-- The records of a contribution, in the layer of its block. -/
def Contribution.span (contribution : Contribution) : Span Record.layer where
  name := contribution.block.layer
  inner := contribution.records
  plain := contribution.plain

/-- Blocks are read and interpreted in order.  A body is read where it stands, after the tokens
`prior`, of which the last comes first; its lines are interpreted against the store that the blocks
before it left. -/
inductive Contributes : List Token → Store → List Contribution → Store → Prop
  | nil {prior : List Token} {store : Store} : Contributes prior store [] store
  | cons {prior : List Token} {store between final : Store} {contribution : Contribution}
      {later : List Contribution}
      (read : Lexer.ReadsBody prior contribution.block contribution.tokens)
      (ran : Program.run store (Line.group contribution.tokens) =
        (.ok contribution.records, between))
      (rest : Contributes
        (.newline :: Lexer.behind prior contribution.block contribution.tokens) between later
        final) :
      Contributes prior store (contribution :: later) final

/-- The two markers of a layer have lines of their own, because `Line.group` ends the line before a
marker and behind it. -/
lemma Line.group_layer (name : Text) (tokens rest : List Token) :
    Line.group (.layer name .start :: (tokens ++ .newline :: .layer name .stop :: rest)) =
      [.layer name .start] :: (Line.group tokens ++ [.layer name .stop] :: Line.group rest) := by
  have start (others : List Token) : Line.group (.layer name .start :: others) =
      [.layer name .start] :: Line.group others :=
    Line.group_append_layer [] others name .start
  have stop : Line.group (.layer name .stop :: rest) = [.layer name .stop] :: Line.group rest :=
    Line.group_append_layer [] rest name .stop
  rw [start, Line.group_append_newline, stop]

/-- `Text.join` puts a line end between two blocks, and there is none after the last one; the lemma
takes one block off the front in either case. -/
lemma Lexer.tokensFrom_blocks {block : Block} {blocks : List Block}
    (solid : ∀ c ∈ block.layer, isBlank c = false)
    (plain : ∀ tokens, Lexer.tokens block.body = .ok tokens → Lexer.Plain tokens)
    (h : Lexer.tokensFrom prior (Text.join "\n" ((block :: blocks).map Block.render)) =
      .ok (prior.reverse ++ new)) :
    ∃ tokens later, Lexer.Plain tokens ∧ Lexer.ReadsBody prior block tokens ∧
      Lexer.tokensFrom (.newline :: Lexer.behind prior block tokens)
          (Text.join "\n" (blocks.map Block.render)) =
        .ok ((.newline :: Lexer.behind prior block tokens).reverse ++ later) ∧
      Line.group new =
        [.layer block.layer .start] :: (Line.group tokens ++
          [.layer block.layer .stop] :: Line.group later) := by
  cases blocks with
  | nil =>
    have text : Text.join "\n" ([block].map Block.render) = block.render ++ [] := by
      simp [Text.join]
    rw [text] at h
    obtain ⟨tokens, plainTokens, body, after⟩ := Lexer.tokensFrom_block solid plain h
    obtain rfl : .layer block.layer .start :: (tokens ++ [.newline, .layer block.layer .stop]) =
      new := by simpa [Lexer.tokensFrom, Lexer.behind] using after
    exact ⟨tokens, [], plainTokens, body, by simp [Text.join, Lexer.tokensFrom],
      Line.group_layer block.layer tokens []⟩
  | cons next blocks =>
    have text : Text.join "\n" ((block :: next :: blocks).map Block.render) =
        block.render ++ '\n' :: Text.join "\n" ((next :: blocks).map Block.render) := by
      simp [Text.join, List.intercalate_cons_cons]
    rw [text] at h
    obtain ⟨tokens, plainTokens, body, after⟩ := Lexer.tokensFrom_block solid plain h
    rw [Lexer.tokensFrom_newline] at after
    obtain ⟨later, same⟩ := Lexer.tokensFrom_extends after
    obtain rfl : new = .layer block.layer .start ::
        (tokens ++ .newline :: .layer block.layer .stop :: .newline :: later) := by
      simpa [Lexer.behind] using same
    refine ⟨tokens, later, plainTokens, body, same ▸ after, ?_⟩
    exact Line.group_layer block.layer tokens (.newline :: later)

lemma Program.run_layer {name : Text} {rest : List Token}
    (ran : Program.run store ([.layer name .start] :: (Line.group tokens ++
      [.layer name .stop] :: Line.group rest)) = (.ok records, final)) :
    ∃ inner between outer, Program.run store (Line.group tokens) = (.ok inner, between) ∧
      Program.run between (Line.group rest) = (.ok outer, final) ∧
      records = .layer name .start :: (inner ++ .layer name .stop :: outer) := by
  obtain ⟨begins, inside, interpreted, afterStart, rfl⟩ := Program.run_cons_eq_ok ran
  obtain rfl := Except.ok.inj interpreted
  obtain ⟨inner, between, outside, ranInner, afterInner, rfl⟩ := Program.run_append_eq_ok afterStart
  obtain ⟨ends, outer, interpreted, ranOuter, rfl⟩ := Program.run_cons_eq_ok afterInner
  obtain rfl := Except.ok.inj interpreted
  exact ⟨inner, between, outer, ranInner, ranOuter, rfl⟩

/-- By induction on the blocks: `Lexer.tokensFrom_blocks` splits off the tokens and the lines of the
first, `Program.run_layer` its records, and the store goes on to the next (`Contributes`). -/
theorem contributes_of_run {blocks : List Block}
    (solid : ∀ block ∈ blocks, ∀ c ∈ block.layer, isBlank c = false)
    (plain : ∀ block ∈ blocks, ∀ tokens, Lexer.tokens block.body = .ok tokens →
      Lexer.Plain tokens)
    (read : Lexer.tokensFrom prior (Text.join "\n" (blocks.map Block.render)) =
      .ok (prior.reverse ++ new))
    (ran : Program.run store (Line.group new) = (.ok records, final)) :
    ∃ contributions, contributions.map Contribution.block = blocks ∧
      Contributes prior store contributions final ∧
      records = (contributions.map Contribution.span).flatMap Span.flat := by
  induction blocks generalizing prior store new records with
  | nil =>
    obtain rfl : new = [] := by simpa [Text.join, Lexer.tokensFrom] using read
    obtain ⟨result, rfl⟩ := Prod.mk.inj ran
    obtain rfl := Except.ok.inj result
    exact ⟨[], rfl, .nil, rfl⟩
  | cons block blocks ih =>
    obtain ⟨tokens, later, plainTokens, readBody, readLater, grouped⟩ :=
      Lexer.tokensFrom_blocks (solid block List.mem_cons_self) (plain block List.mem_cons_self) read
    rw [grouped] at ran
    obtain ⟨inner, between, outer, ranBody, ranLater, rfl⟩ := Program.run_layer ran
    obtain ⟨contributions, same, contributes, rfl⟩ :=
      ih (fun block mem => solid block (List.mem_cons_of_mem _ mem))
        (fun block mem => plain block (List.mem_cons_of_mem _ mem)) readLater ranLater
    have plainLines : ∀ line ∈ Line.group tokens, Lexer.Plain line := by
      intro line grouped name edge mem
      exact plainTokens name edge ((Line.mem_of_mem_groupFrom grouped mem).resolve_left (by simp))
    let contribution : Contribution := ⟨block, tokens, inner, Program.run_plain plainLines ranBody⟩
    refine ⟨contribution :: contributions, by simp [same, contribution],
      .cons readBody ranBody contributes, ?_⟩
    simp [Contribution.span, Span.flat, contribution]

end UtilityCss
