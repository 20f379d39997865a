import UtilityCss.Import.Bundle
import UtilityCss.Path
import UtilityCss.Proofs.Token.LineEnd
import UtilityCss.Proofs.Token.Shape

/-!
# Layer markers in a source

The tokens read before a construct matter for nothing but the class of a bare word (`step_context`),
and a bare word is never a layer marker.  So whether a part of a source holds markers does not
depend on where the part stands (`tokensFrom_context`).

The markers that delimit a block are read as such, whatever the block is named after: a name is one
word (`not_isBlank_of_mem_layerName`), so it ends where the marker says it does.  A block without
markers of its own is read as its two markers with the tokens of its body between them
(`tokensFrom_block`).
-/

namespace UtilityCss

namespace Lexer

variable {prior other new emitted read : List Token} {c : Char} {text rest below name : Text}
  {edge : Edge}

/-- The tokens hold no layer marker. -/
def Plain (tokens : List Token) : Prop := ∀ name edge, .layer name edge ∉ tokens

/-! ## The tokens before a construct -/

lemma classify_ne_layer (word : Text) : Token.classify prior word ≠ .layer name edge := by
  unfold Token.classify
  iterate 5
    split
    · simp
  simp

/-- From `step_reads`: only the token of a bare word depends on `prior`, and it is no marker
(`classify_ne_layer`). -/
theorem step_context (taken : step prior c text = .ok (emitted, rest)) (other : List Token) :
    ∃ emitted', step other c text = .ok (emitted', rest) ∧
      ∀ name edge, .layer name edge ∈ emitted' ↔ .layer name edge ∈ emitted := by
  rcases step_reads taken with ⟨word, -, -, everywhere⟩ | ⟨-, everywhere⟩
  · obtain rfl : emitted = [Token.classify prior word] := by
      simpa [taken] using everywhere prior
    refine ⟨_, everywhere other, fun name edge => ?_⟩
    simp [(classify_ne_layer word).symm]
  · exact ⟨emitted, everywhere other, fun _ _ => .rfl⟩

/-- `step_context` along the reading.  It lets a condition on the body of a block that is read alone
serve for the body inside of its block (`tokensFrom_block`). -/
theorem tokensFrom_context (h : tokensFrom prior text = .ok (prior.reverse ++ new))
    (other : List Token) :
    ∃ new', tokensFrom other text = .ok (other.reverse ++ new') ∧
      ∀ name edge, .layer name edge ∈ new' ↔ .layer name edge ∈ new := by
  fun_induction tokensFrom prior text generalizing new other with
  | case1 prior =>
    obtain rfl : new = [] := by simpa using h
    exact ⟨[], by simp [tokensFrom], fun _ _ => .rfl⟩
  | case2 => simp at h
  | case3 prior c text emitted rest taken ih =>
    obtain ⟨later, same⟩ := tokensFrom_extends h
    obtain rfl : new = emitted ++ later := by simpa using same
    obtain ⟨emitted', taken', markers⟩ := step_context taken other
    obtain ⟨later', read, markers'⟩ := ih (same ▸ h) (emitted'.reverse ++ other)
    refine ⟨emitted' ++ later', ?_, fun name edge => ?_⟩
    · rw [tokensFrom_of_step taken', read]
      simp
    · rw [List.mem_append, List.mem_append, markers, markers']

/-! ## The line of a marker -/

/-- The line of a marker, and the lines below it. -/
def markerLine (name : Text) (edge : Edge) (below : Text) : Text :=
  layerKeyword ++ (name ++ ' ' :: (edge.name ++ '\n' :: below))

lemma takeWhile_word (solid : ∀ c ∈ name, isBlank c = false) (blank : isBlank c = true) :
    (name ++ c :: rest).takeWhile (!isBlank ·) = name :=
  Text.takeWhile_run (by simpa using solid) (by simpa using blank)

lemma dropWhile_word (solid : ∀ c ∈ name, isBlank c = false) (blank : isBlank c = true) :
    (name ++ c :: rest).dropWhile (!isBlank ·) = c :: rest :=
  Text.dropWhile_run (by simpa using solid) (by simpa using blank)

/-- `layerMarker` skips gaps before the name and before the edge, and no character of a word is
one. -/
lemma dropWhile_isGap_word (solid : ∀ c ∈ name, isBlank c = false) (named : name ≠ []) :
    (name ++ rest).dropWhile isGap = name ++ rest := by
  obtain ⟨d, tail, rfl⟩ := List.exists_cons_of_ne_nil named
  simp [isGap, solid d]

lemma solid_edgeName : ∀ c ∈ edge.name, isBlank c = false := by
  have solid : edge.name.all (!isBlank ·) = true := by cases edge <;> decide
  simpa using solid

lemma ofName?_edgeName : Edge.ofName? edge.name = some edge := by
  cases edge <;> decide

lemma dropWhile_isGap_edge :
    (' ' :: (edge.name ++ rest)).dropWhile isGap = edge.name ++ rest := by
  have gap : isGap ' ' = true := by decide
  have named : edge.name ≠ [] := by cases edge <;> decide
  rw [List.dropWhile_cons_of_pos gap, dropWhile_isGap_word solid_edgeName named]

lemma layerMarker_of_solid (solid : ∀ c ∈ name, isBlank c = false) (named : name ≠ []) :
    layerMarker (name ++ ' ' :: (edge.name ++ '\n' :: below)) = .ok (.layer name edge, below) := by
  have blank : isBlank ' ' = true := by decide
  have lineEnd : isBlank '\n' = true := by decide
  have finish : finishLine ('\n' :: below) = below := by simp [finishLine, isGap, Text.skip]
  simp only [layerMarker, dropWhile_isGap_word solid named, takeWhile_word solid blank,
    dropWhile_word solid blank, dropWhile_isGap_edge, takeWhile_word solid_edgeName lineEnd,
    dropWhile_word solid_edgeName lineEnd, if_neg named, ofName?_edgeName, finish]

/-- Where a name is missing, the word for the edge is taken for the name, and no edge follows it on
the line. -/
lemma layerMarker_unnamed :
    layerMarker (' ' :: (edge.name ++ '\n' :: below)) =
      .error ⟨.unknownLayerAction [], '\n' :: below⟩ := by
  have lineEnd : isBlank '\n' = true := by decide
  have noGap : isGap '\n' = false := by decide
  have named : edge.name ≠ [] := by cases edge <;> decide
  have noEdge : Edge.ofName? [] = none := rfl
  simp [layerMarker, dropWhile_isGap_edge, takeWhile_word solid_edgeName lineEnd,
    dropWhile_word solid_edgeName lineEnd, lineEnd, noGap, named, noEdge]

lemma step_keyword :
    step prior 'L' ('A' :: 'Y' :: 'E' :: 'R' :: ' ' :: text) = one (layerMarker text) := by
  have noGap : isGap 'L' = false := by decide
  simp [step, noGap, layerKeyword, Text.after?]

/-- `layerMarker_of_solid` behind the keyword.  The name must have no blanks, at which `layerMarker`
would end it. -/
lemma tokensFrom_markerLine (solid : ∀ c ∈ name, isBlank c = false) (named : name ≠ []) :
    tokensFrom prior (markerLine name edge below) =
      tokensFrom (.layer name edge :: prior) below := by
  have taken : step prior 'L' ('A' :: 'Y' :: 'E' :: 'R' :: ' ' ::
      (name ++ ' ' :: (edge.name ++ '\n' :: below))) = .ok ([.layer name edge], below) := by
    rw [step_keyword, layerMarker_of_solid solid named]
    rfl
  exact tokensFrom_of_step taken

lemma ne_nil_of_tokensFrom_markerLine
    (h : tokensFrom prior (markerLine name edge below) = .ok read) : name ≠ [] := by
  rintro rfl
  have failed : step prior 'L' ('A' :: 'Y' :: 'E' :: 'R' :: ' ' ::
      ' ' :: (edge.name ++ '\n' :: below)) =
        .error ⟨.unknownLayerAction [], '\n' :: below⟩ := by
    rw [step_keyword, layerMarker_unnamed]
    rfl
  have refused : tokensFrom prior (markerLine [] edge below) = _ :=
    tokensFrom_of_step_error failed
  simp [refused] at h

/-! ## The block of a file -/

lemma render_append (block : Block) (below : Text) :
    block.render ++ below =
      markerLine block.layer .start
        (block.body ++ '\n' :: markerLine block.layer .stop below) := by
  have keyword : layerKeyword = "LAYER".toList ++ [' '] := by decide
  have start : Edge.name .start = "START".toList := rfl
  have stop : Edge.name .stop = "END".toList := rfl
  have lineEnd : "\n".toList = ['\n'] := rfl
  have blank : " ".toList = [' '] := rfl
  simp only [Block.render, Block.marker, Text.join, List.intercalate_cons_cons,
    List.intercalate_singleton, keyword, start, stop, lineEnd, blank, markerLine, List.append_assoc,
    List.cons_append, List.nil_append]

/-- The body of a block that stands after the tokens `prior` is read as the given tokens. -/
def ReadsBody (prior : List Token) (block : Block) (tokens : List Token) : Prop :=
  tokensFrom (.layer block.layer .start :: prior) block.body =
    .ok ((.layer block.layer .start :: prior).reverse ++ tokens)

/-- The tokens up to the end of a block whose body is read as the given ones, the last one first. -/
def behind (prior : List Token) (block : Block) (tokens : List Token) : List Token :=
  .layer block.layer .stop :: .newline :: (tokens.reverse ++ .layer block.layer .start :: prior)

/-- `plain` is asked because a marker at the end of the body would take the line end along, and
there would be no token for it (`tokensFrom_line`). -/
lemma tokensFrom_block_of_readsBody {block : Block} {tokens : List Token}
    (solid : ∀ c ∈ block.layer, isBlank c = false) (named : block.layer ≠ [])
    (body : ReadsBody prior block tokens) (plain : Plain tokens) :
    tokensFrom prior (block.render ++ below) = tokensFrom (behind prior block tokens) below := by
  rw [render_append, tokensFrom_markerLine solid named, tokensFrom_line_of_ok body plain,
    tokensFrom_markerLine solid named]
  rfl

/-- The converse of `tokensFrom_block_of_readsBody`: a fault in the body would be one of the whole
(`tokensFrom_line_of_error`), and a block without a name is refused
(`ne_nil_of_tokensFrom_markerLine`).  `plain` speaks of the body read alone, and
`tokensFrom_context` carries it over. -/
theorem tokensFrom_block {block : Block} (solid : ∀ c ∈ block.layer, isBlank c = false)
    (plain : ∀ tokens, Lexer.tokens block.body = .ok tokens → Plain tokens)
    (h : tokensFrom prior (block.render ++ below) = .ok read) :
    ∃ tokens, Plain tokens ∧ ReadsBody prior block tokens ∧
      tokensFrom (behind prior block tokens) below = .ok read := by
  have named : block.layer ≠ [] := by
    rw [render_append] at h
    exact ne_nil_of_tokensFrom_markerLine h
  cases inside : tokensFrom (.layer block.layer .start :: prior) block.body with
  | error stop =>
    rw [render_append, tokensFrom_markerLine solid named, tokensFrom_line_of_error inside] at h
    simp at h
  | ok body =>
    obtain ⟨tokens, rfl⟩ := tokensFrom_extends inside
    have plainTokens : Plain tokens := by
      obtain ⟨outside, read, markers⟩ := tokensFrom_context inside []
      intro name edge mem
      exact plain outside (by simp [Lexer.tokens, read]) name edge ((markers name edge).2 mem)
    rw [tokensFrom_block_of_readsBody solid named inside plainTokens] at h
    exact ⟨tokens, plainTokens, inside, h⟩

end Lexer

/-! ## The names of layers -/

/-- `Text.hyphenated` leaves no blank of the stem, so that the name ends where `layerMarker` looks
for its end. -/
theorem not_isBlank_of_mem_layerName (stem : Text) : ∀ c ∈ layerName stem, isBlank c = false := by
  have hyphen : isBlank '-' = false := by decide
  have words : ∀ inside, ∀ c ∈ Text.hyphenated inside stem, isBlank c = false := by
    intro inside
    fun_induction Text.hyphenated inside stem with
    | case1 => simp
    | case2 => simp_all
    | case3 => simp_all
    | case4 => simp_all
  exact words false

end UtilityCss
