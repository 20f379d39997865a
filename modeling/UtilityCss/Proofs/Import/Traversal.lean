import UtilityCss.Proofs.Import.Graph
import UtilityCss.Proofs.Text.Words

/-!
# The rules of the traversal

`Bundle.expand` ends because it takes every file that it enters out of what is available, and it
compares a file with the marks in its progress.  What it does is said here by rules that know
nothing of either: `Follows` follows the directives of a file one by one in the whole graph, and
compares a file with those that led to it and those that were written.  A run by these rules that
never ends has no derivation.

`follows_expand` shows that `Bundle.expand` always has one, as long as the marks are right
(`Tracks`), and `Follows.tracks` that they stay right, so no file is entered twice.  Everything else
about the traversal is proved by induction on the rules: what a finished run did is a depth-first
traversal (`Follows.depthFirst`), the parts that it gathered are the texts of its blocks
(`Follows.gathers`), and a run that failed met what its fault says at the end of a chain of files
that lead to each other (`Follows.blames`).
-/

namespace UtilityCss

variable {graph : ImportGraph} {fault : Location → ReadFault} {root importer location : Location}
  {outer : List Location} {directive : Directive} {directives : List Directive}
  {progress final : Progress} {outcome : Except Failure Progress}

/-! ## What steps do to the progress -/

namespace Progress

/-- The files that were entered, in order. -/
def entered (progress : Progress) : List Location := (Bundle.ofProgress progress).files

/-- The locations of the files that were written, the last one first. -/
def written (progress : Progress) : List Location := progress.blocks.map Block.location

@[simp]
lemma entered_start : Progress.start.entered = [] := rfl

@[simp]
lemma written_start : Progress.start.written = [] := rfl

@[simp]
lemma entered_enter (text : Text) :
    (progress.enter location text).entered = progress.entered ++ [location] := by
  simp [entered, Bundle.ofProgress, enter, visits, Visit.entered?]

@[simp]
lemma entered_skip : (progress.skip location).entered = progress.entered := by
  simp [entered, Bundle.ofProgress, skip, visits, Visit.entered?]

@[simp]
lemma entered_write (outside : List Text) (layer text : Text) :
    (progress.write outside location layer text).entered = progress.entered := rfl

@[simp]
lemma blocks_enter (text : Text) : (progress.enter location text).blocks = progress.blocks := rfl

@[simp]
lemma written_enter (text : Text) : (progress.enter location text).written = progress.written :=
  rfl

@[simp]
lemma written_skip : (progress.skip location).written = progress.written := rfl

@[simp]
lemma written_write (outside : List Text) (layer text : Text) :
    (progress.write outside location layer text).written = location :: progress.written := rfl

end Progress

/-- The text of blocks that follow each other. -/
def Bundle.joined (blocks : List Block) : Text := Text.join "\n" (blocks.map Block.render)

/-- The progress when bundling has come to its end: no file is being followed any more, and the
blocks have become one text. -/
def Progress.finished (trail : List Visit) (blocks : List Block) : Progress :=
  ⟨trail, blocks, [], blocks.map Block.location, [Bundle.joined blocks.reverse]⟩

@[simp]
lemma Bundle.text_finished (trail : List Visit) (blocks : List Block) :
    (ofProgress (.finished trail blocks)).text = joined blocks.reverse := by
  simp [ofProgress, Progress.finished, Text.join]

/-- How far a run came, whether or not it failed. -/
def progressOf : Except Failure Progress → Progress
  | .ok progress => progress
  | .error failure => failure.progress

/-! ## The rules -/

namespace Bundle

/-- Following the directives of `importer`, which the files of `outer` led to, the innermost first,
takes the progress to an outcome. -/
inductive Follows (graph : ImportGraph) (fault : Location → ReadFault) :
    List Location → Location → List Directive → Progress → Except Failure Progress → Prop
  | finished {outer : List Location} {importer : Location} {progress : Progress} :
      Follows graph fault outer importer [] progress (.ok progress)
  | nowhere {outer : List Location} {importer : Location} {directive : Directive}
      {directives : List Directive} {progress : Progress} {null : NullInPath}
      (leads : graph.settings.target importer directive = .error null) :
      Follows graph fault outer importer (directive :: directives) progress
        (.error ⟨.path null, progress⟩)
  | cycle {outer : List Location} {importer location : Location} {directive : Directive}
      {directives : List Directive} {progress : Progress}
      (leads : graph.settings.target importer directive = .ok location)
      (met : location ∈ importer :: outer) :
      Follows graph fault outer importer (directive :: directives) progress
        (.error ⟨.cycle location (importer :: outer).reverse, progress⟩)
  | skip {outer : List Location} {importer location : Location} {directive : Directive}
      {directives : List Directive} {progress : Progress} {outcome : Except Failure Progress}
      (leads : graph.settings.target importer directive = .ok location)
      (closed : location ∉ importer :: outer) (done : location ∈ progress.written)
      (rest : Follows graph fault outer importer directives (progress.skip location) outcome) :
      Follows graph fault outer importer (directive :: directives) progress outcome
  | unreadable {outer : List Location} {importer location : Location} {directive : Directive}
      {directives : List Directive} {progress : Progress}
      (leads : graph.settings.target importer directive = .ok location)
      (closed : location ∉ importer :: outer) (fresh : location ∉ progress.written)
      (missing : graph.text? location = none) :
      Follows graph fault outer importer (directive :: directives) progress
        (.error ⟨.load (.directive directive.kind) location (fault location), progress⟩)
  | fail {outer : List Location} {importer location : Location} {directive : Directive}
      {directives : List Directive} {progress : Progress} {text : Text} {failure : Failure}
      (leads : graph.settings.target importer directive = .ok location)
      (closed : location ∉ importer :: outer) (fresh : location ∉ progress.written)
      (found : graph.text? location = some text)
      (inner : Follows graph fault (importer :: outer) location (Directive.scan text)
        (progress.enter location text) (.error failure)) :
      Follows graph fault outer importer (directive :: directives) progress (.error failure)
  | enter {outer : List Location} {importer location : Location} {directive : Directive}
      {directives : List Directive} {progress inside : Progress} {text : Text}
      {outcome : Except Failure Progress}
      (leads : graph.settings.target importer directive = .ok location)
      (closed : location ∉ importer :: outer) (fresh : location ∉ progress.written)
      (found : graph.text? location = some text)
      (inner : Follows graph fault (importer :: outer) location (Directive.scan text)
        (progress.enter location text) (.ok inside))
      (rest : Follows graph fault outer importer directives
        (inside.write progress.parts location (layerName location.stem) text) outcome) :
      Follows graph fault outer importer (directive :: directives) progress outcome

/-- The invariant on `available`: it holds all files but those that are being followed.  Following
one more file takes that file out (`Catalog.text?_without`). -/
lemma complete_without {available : List (Location × Text)} {stack : List Location}
    (complete : ∀ other, other ∉ stack → Catalog.text? available other = graph.text? other) :
    ∀ other, other ∉ location :: stack →
      Catalog.text? (Catalog.without available location) other = graph.text? other := by
  intro other closed
  obtain ⟨distinct, closed⟩ := not_or.1 (mt List.mem_cons.2 closed)
  rw [Catalog.text?_without distinct, complete other closed]

/-! ## The marks are right, and no file is entered twice -/

/-- The marks hold the files that are being followed and those that were written.  These are the
files that were entered; each was entered once, and could be read. -/
structure Tracks (graph : ImportGraph) (stack : List Location) (progress : Progress) : Prop where
  resolving : progress.resolving = stack
  expanded : progress.expanded = progress.written
  nodup : progress.entered.Nodup
  mem_iff : ∀ location, location ∈ progress.entered ↔ location ∈ stack ∨ location ∈ progress.written
  readable : ∀ location ∈ progress.entered, graph.Readable (.ok location)

lemma tracks_start : Tracks graph [] Progress.start where
  resolving := rfl
  expanded := rfl
  nodup := by simp
  mem_iff := by simp
  readable := by simp

lemma Tracks.skip {stack : List Location} (tracks : Tracks graph stack progress) :
    Tracks graph stack (progress.skip location) where
  resolving := tracks.resolving
  expanded := tracks.expanded
  nodup := by simpa using tracks.nodup
  mem_iff := by simpa using tracks.mem_iff
  readable := by simpa using tracks.readable

lemma Tracks.enter {stack : List Location} {text : Text} (tracks : Tracks graph stack progress)
    (closed : location ∉ stack) (fresh : location ∉ progress.written)
    (found : graph.text? location = some text) :
    Tracks graph (location :: stack) (progress.enter location text) where
  resolving := congrArg (location :: ·) tracks.resolving
  expanded := tracks.expanded
  nodup := by
    have new : location ∉ progress.entered := by
      rw [tracks.mem_iff]
      exact not_or.2 ⟨closed, fresh⟩
    rw [Progress.entered_enter]
    refine List.nodup_append.2 ⟨tracks.nodup, by simp, ?_⟩
    rintro other mem last listed rfl
    obtain rfl := List.mem_singleton.1 listed
    exact new mem
  mem_iff other := by
    simp only [Progress.entered_enter, Progress.written_enter, List.mem_append, List.mem_cons,
      tracks.mem_iff other]
    tauto
  readable other mem := by
    rw [Progress.entered_enter] at mem
    rcases List.mem_append.1 mem with mem | mem
    · exact tracks.readable other mem
    · obtain rfl := List.mem_singleton.1 mem
      exact ⟨text, found⟩

lemma Tracks.write {stack : List Location} (outside : List Text) (layer text : Text)
    (tracks : Tracks graph (location :: stack) progress) :
    Tracks graph stack (progress.write outside location layer text) where
  resolving := congrArg List.tail tracks.resolving
  expanded := congrArg (location :: ·) tracks.expanded
  nodup := tracks.nodup
  mem_iff other := by
    rw [Progress.entered_write, tracks.mem_iff, Progress.written_write]
    simp only [List.mem_cons]
    tauto
  readable := tracks.readable

/-- `Tracks` along a run: wherever it stops, its marks are right; if it has finished, the files that
it entered are left again. -/
theorem Follows.tracks (h : Follows graph fault outer importer directives progress outcome)
    (tracks : Tracks graph (importer :: outer) progress) :
    ∃ stack, Tracks graph stack (progressOf outcome) ∧
      (∀ final, outcome = .ok final → stack = importer :: outer) := by
  induction h with
  | finished => exact ⟨_, tracks, fun _ _ => rfl⟩
  | nowhere | cycle | unreadable => exact ⟨_, tracks, by simp⟩
  | skip _ _ _ _ ih => exact ih tracks.skip
  | fail _ closed fresh found _ ih =>
    obtain ⟨stack, tracks, -⟩ := ih (tracks.enter closed fresh found)
    exact ⟨stack, tracks, by simp⟩
  | enter _ closed fresh found _ _ ihInner ihRest =>
    obtain ⟨stack, inside, finished⟩ := ihInner (tracks.enter closed fresh found)
    obtain rfl := finished _ rfl
    exact ihRest (inside.write _ _ _)

lemma Follows.tracks_ok
    (h : Follows graph fault outer importer directives progress (.ok final))
    (tracks : Tracks graph (importer :: outer) progress) :
    Tracks graph (importer :: outer) final := by
  obtain ⟨stack, tracks, finished⟩ := h.tracks tracks
  obtain rfl := finished final rfl
  exact tracks

/-- By induction along `expand`.  `Tracks` says that the marks of `progress` are the stack of the
rules, and `complete` that a file that is missing from `available` is missing from the graph. -/
theorem follows_expand {available : List (Location × Text)}
    (tracks : Tracks graph (importer :: outer) progress)
    (complete : ∀ location, location ∉ importer :: outer →
      Catalog.text? available location = graph.text? location) :
    Follows graph fault outer importer directives progress
      (expand graph.settings fault available importer directives progress) := by
  fun_induction expand graph.settings fault available importer directives progress
      generalizing outer with
  | case1 => exact .finished
  | case2 available importer directive directives progress null leads => exact .nowhere leads
  | case3 available importer directive directives progress location leads met =>
    rw [tracks.resolving] at met ⊢
    exact .cycle leads met
  | case4 available importer directive directives progress location leads closed done ih =>
    rw [tracks.resolving] at closed
    rw [tracks.expanded] at done
    exact .skip leads closed done (ih tracks.skip complete)
  | case5 available importer directive directives progress location leads closed fresh missing =>
    rw [tracks.resolving] at closed
    rw [tracks.expanded] at fresh
    rw [complete location closed] at missing
    exact .unreadable leads closed fresh missing
  | case6 available importer directive directives progress location leads closed fresh text found
      failure failed ih =>
    rw [tracks.resolving] at closed
    rw [tracks.expanded] at fresh
    rw [complete location closed] at found
    have inner := ih (tracks.enter closed fresh found) (complete_without complete)
    rw [failed] at inner
    exact .fail leads closed fresh found inner
  | case7 available importer directive directives progress location leads closed fresh text found
      inside followed ihInner ihRest =>
    rw [tracks.resolving] at closed
    rw [tracks.expanded] at fresh
    rw [complete location closed] at found
    have entered := tracks.enter closed fresh found
    have inner := ihInner entered (complete_without complete)
    rw [followed] at inner
    exact .enter leads closed fresh found inner
      (ihRest ((inner.tracks_ok entered).write _ _ _) complete)

/-! ## A finished run is a depth-first traversal -/

/-- The block is what the graph says of its file. -/
def IsBlock (graph : ImportGraph) (block : Block) : Prop :=
  block.layer = layerName block.location.stem ∧
    (graph.text? block.location).map Directive.strip = some block.body

theorem Follows.depthFirst (h : Follows graph fault outer importer directives progress outcome)
    (finished : outcome = .ok final) :
    ∃ (pre : List Location) (post : List Block),
      final.entered = progress.entered ++ pre ∧
      final.blocks = post.reverse ++ progress.blocks ∧
      (∀ block ∈ post, IsBlock graph block) ∧
      DepthFirst graph.destinations ((importer :: outer).map .ok) (progress.written.map .ok)
        (directives.map (graph.settings.target importer)) (pre.map .ok)
        ((post.map Block.location).map .ok) := by
  induction h generalizing final with
  | finished =>
    obtain rfl := Except.ok.inj finished
    exact ⟨[], [], by simp, by simp, by simp, .nil⟩
  | nowhere | cycle | unreadable | fail => simp at finished
  | skip leads closed done rest ih =>
    obtain ⟨pre, post, entered, blocks, isBlock, order⟩ := ih finished
    refine ⟨pre, post, by simpa using entered, blocks, isBlock, ?_⟩
    simp only [List.map_cons, leads]
    exact .skip (List.mem_map_of_mem done) order
  | @enter outer importer location directive directives progress inside text outcome leads closed
      fresh found inner rest ihInner ihRest =>
    obtain ⟨pre, post, entered, blocks, isBlock, order⟩ := ihInner rfl
    obtain ⟨pre', post', entered', blocks', isBlock', order'⟩ := ihRest finished
    let block : Block := ⟨location, layerName location.stem, Directive.strip text⟩
    have own : IsBlock graph block := ⟨rfl, by simp [block, found]⟩
    have left : inside.written.map (Except.ok : Location → Destination) =
        ((post.map Block.location).map .ok).reverse ++ progress.written.map .ok := by
      simp [Progress.written, blocks]
    refine ⟨location :: (pre ++ pre'), post ++ block :: post', ?_, ?_, ?_, ?_⟩
    · simp [entered', entered]
    · simp [blocks', blocks, Progress.write, block]
    · intro other mem
      rcases List.mem_append.1 mem with mem | mem
      · exact isBlock other mem
      · rcases List.mem_cons.1 mem with rfl | mem
        · exact own
        · exact isBlock' other mem
    · simp only [List.map_cons, List.map_append, leads] at order' ⊢
      refine .visit ?_ ?_ ?_ ?_
      · simpa using closed
      · simpa using fresh
      · simpa [ImportGraph.destinations, ImportGraph.directives_eq found] using order
      · simpa [left] using order'

/-! ## The parts of a finished run are the texts of its blocks -/

lemma joined_flatten {groups : List (List Block)} (given : ∀ group ∈ groups, group ≠ []) :
    Text.join "\n" (groups.map joined) = joined groups.flatten := by
  have parts : ∀ group ∈ groups.map (List.map Block.render), group ≠ [] := by
    intro group mem
    obtain ⟨blocks, listed, rfl⟩ := List.mem_map.1 mem
    exact mt List.map_eq_nil_iff.1 (given blocks listed)
  calc
    _ = Text.join "\n" ((groups.map (List.map Block.render)).map (Text.join "\n")) := by
      rw [List.map_map]
      rfl
    _ = _ := by rw [Text.join_map_join parts, ← List.map_flatten, joined]

/-- Each file is put together on its own, from the parts of the files that it enters, so a run
gathers nested joins: one part for each file that it entered at the outermost level, made of the
blocks of all files that were written until that one was left. -/
theorem Follows.gathers (h : Follows graph fault outer importer directives progress outcome)
    (finished : outcome = .ok final) :
    ∃ groups : List (List Block),
      (∀ group ∈ groups, group ≠ []) ∧
      final.blocks = groups.flatten.reverse ++ progress.blocks ∧
      final.parts = (groups.map joined).reverse ++ progress.parts := by
  induction h generalizing final with
  | finished =>
    obtain rfl := Except.ok.inj finished
    exact ⟨[], by simp, by simp, by simp⟩
  | nowhere | cycle | unreadable | fail => simp at finished
  | skip leads closed done rest ih => exact ih finished
  | @enter outer importer location directive directives progress inside text outcome leads closed
      fresh found inner rest ihInner ihRest =>
    obtain ⟨groups, given, blocks, parts⟩ := ihInner rfl
    obtain ⟨groups', given', blocks', parts'⟩ := ihRest finished
    let block : Block := ⟨location, layerName location.stem, Directive.strip text⟩
    -- the file is left with its own block behind the groups that were gathered inside
    have own : ∀ group ∈ groups ++ [[block]], group ≠ [] := by
      simpa [or_imp, forall_and] using given
    have part : Text.join "\n" (inside.parts.reverse ++ [block.render]) =
        joined (groups.flatten ++ [block]) := by
      calc
        _ = Text.join "\n" ((groups ++ [[block]]).map joined) := by
          simp [parts, Progress.enter, joined, Text.join]
        _ = _ := by
          rw [joined_flatten own]
          simp
    refine ⟨(groups.flatten ++ [block]) :: groups', ?_, ?_, ?_⟩
    · simpa using given'
    · simp [blocks', Progress.write, blocks, block]
    · rw [parts', List.map_cons, ← part]
      simp [Progress.write, block]

/-! ## Why a run fails -/

/-- Files that lead to each other, the innermost first and the root last, without repetition. -/
inductive Descent (graph : ImportGraph) (root : Location) : List Location → Prop
  | root : Descent graph root [root]
  | step {importer location : Location} {outer : List Location}
      (descent : Descent graph root (importer :: outer))
      (leads : LeadsTo graph.destinations (.ok importer) (.ok location))
      (closed : location ∉ importer :: outer) :
      Descent graph root (location :: importer :: outer)

/-- A directive in the innermost file of a stack has what the fault says. -/
def Blames (graph : ImportGraph) (fault : Location → ReadFault) (stack : List Location)
    (importer : Location) (directive : Directive) : ImportFault → Prop
  | .path null => graph.settings.target importer directive = .error null
  | .cycle location chain =>
    graph.settings.target importer directive = .ok location ∧ location ∈ stack ∧
      chain = stack.reverse
  | .load origin location reason =>
    graph.settings.target importer directive = .ok location ∧ origin = .directive directive.kind ∧
      graph.text? location = none ∧ reason = fault location

/-- A run that failed met what its fault says in a directive of a file that the root leads to.  The
`Descent` grows with every file that is entered, and so it is at hand where the run fails. -/
theorem Follows.blames {failure : Failure}
    (h : Follows graph fault outer importer directives progress outcome)
    (failed : outcome = .error failure) (descent : Descent graph root (importer :: outer))
    (own : ∀ directive ∈ directives, directive ∈ graph.directives importer) :
    ∃ importer outer, Descent graph root (importer :: outer) ∧
      ∃ directive ∈ graph.directives importer,
        Blames graph fault (importer :: outer) importer directive failure.fault := by
  induction h with
  | finished => simp at failed
  | nowhere leads =>
    obtain rfl := Except.error.inj failed
    exact ⟨_, _, descent, _, own _ (by simp), leads⟩
  | cycle leads met =>
    obtain rfl := Except.error.inj failed
    exact ⟨_, _, descent, _, own _ (by simp), leads, met, rfl⟩
  | unreadable leads _ _ missing =>
    obtain rfl := Except.error.inj failed
    exact ⟨_, _, descent, _, own _ (by simp), leads, rfl, missing, rfl⟩
  | skip _ _ _ _ ih =>
    exact ih failed descent fun directive mem => own directive (List.mem_cons_of_mem _ mem)
  | fail leads closed _ found _ ih =>
    have deeper := descent.step (ImportGraph.leadsTo_target (own _ (by simp)) leads) closed
    refine ih failed deeper fun directive mem => ?_
    rwa [ImportGraph.directives_eq found]
  | enter _ _ _ _ _ _ _ ih =>
    exact ih failed descent fun directive mem => own directive (List.mem_cons_of_mem _ mem)

end Bundle

end UtilityCss
