import Mathlib.Data.List.Nodup
import UtilityCss.Proofs.Import.Traversal

/-!
# What bundling a file gives, and when it fails

The bundle of a file consists of one block for each file that it reaches, in the order in which a
depth-first traversal leaves them (`Bundle.Represents`).  Bundling always comes to an end, by the
rules of `Bundle.Resolves`; it enters no file twice, and it succeeds exactly when everything that is
reached can be read and nothing that is reached builds on itself.

`Bundle.expand` recurs on the files that are left, by a measure.  `Bundle.expandWithin` recurs on a
depth instead; with as many levels as there are files the two are equal (`Bundle.expand_eq`), so
that the bundle of a given tree can be evaluated.
-/

namespace UtilityCss

variable {graph : ImportGraph} {fault : Location → ReadFault} {root importer location : Location}
  {outer : List Location} {entry : Path} {layer : Option Text} {progress : Progress}
  {outcome : Except Failure Progress} {failure : Failure}

/-! ## From the entry on -/

namespace Bundle

/-- The name of the layer for the file that a bundle is made for. -/
def rootLayer (layer : Option Text) (root : Location) : Text :=
  (layer.filter (· ≠ [])).getD (layerName root.stem)

/-- Bundling the file at the end of a path leads to an outcome. -/
inductive Resolves (graph : ImportGraph) (fault : Location → ReadFault) (entry : Path)
    (layer : Option Text) : Except Failure Progress → Prop
  | nowhere {null : NullInPath} (leads : graph.settings.current.resolve entry = .error null) :
      Resolves graph fault entry layer (.error ⟨.path null, .start⟩)
  | unreadable {root : Location} (leads : graph.settings.current.resolve entry = .ok root)
      (missing : graph.text? root = none) :
      Resolves graph fault entry layer (.error ⟨.load .entry root (fault root), .start⟩)
  | fail {root : Location} {text : Text} {failure : Failure}
      (leads : graph.settings.current.resolve entry = .ok root)
      (found : graph.text? root = some text)
      (followed : Follows graph fault [] root (Directive.scan text)
        (Progress.start.enter root text) (.error failure)) :
      Resolves graph fault entry layer (.error failure)
  | finish {root : Location} {text : Text} {inside : Progress}
      (leads : graph.settings.current.resolve entry = .ok root)
      (found : graph.text? root = some text)
      (followed : Follows graph fault [] root (Directive.scan text)
        (Progress.start.enter root text) (.ok inside)) :
      Resolves graph fault entry layer (.ok (inside.write [] root (rootLayer layer root) text))

/-- `follows_expand` at the entry, where nothing is followed yet.  The graph may be any that agrees
with the catalog on texts, for instance that of a session. -/
lemma resolves_resolve {catalog : Catalog}
    (agrees : ∀ location, Catalog.text? catalog.texts location = graph.text? location) :
    Resolves graph catalog.fault entry layer (resolve catalog graph.settings entry layer) := by
  unfold resolve
  cases leads : graph.settings.current.resolve entry with
  | error null => exact .nowhere leads
  | ok root =>
    simp only [follow, agrees root]
    cases found : graph.text? root with
    | none => exact .unreadable leads found
    | some text =>
      have entered : Tracks graph [root] (Progress.start.enter root text) :=
        tracks_start.enter (by simp) (by simp) found
      have followed : Follows graph catalog.fault [] root (Directive.scan text)
          (Progress.start.enter root text)
          (expand graph.settings catalog.fault (Catalog.without catalog.texts root) root
            (Directive.scan text) (Progress.start.enter root text)) :=
        follows_expand entered (complete_without fun other _ => agrees other)
      cases ran : expand graph.settings catalog.fault (Catalog.without catalog.texts root) root
          (Directive.scan text) (Progress.start.enter root text) with
      | error failure =>
        rw [ran] at followed
        simp only [ran]
        exact .fail leads found followed
      | ok inside =>
        rw [ran] at followed
        simp only [ran]
        exact .finish leads found followed

/-- `Follows.tracks` for the whole bundling: it enters no file twice, however it ends, and if it
succeeds, no file is being followed any more. -/
lemma Resolves.tracks (h : Resolves graph fault entry layer outcome) :
    ∃ stack, Tracks graph stack (progressOf outcome) ∧
      (∀ final, outcome = .ok final → stack = []) := by
  cases h with
  | nowhere | unreadable => exact ⟨[], tracks_start, by simp⟩
  | fail leads found followed =>
    obtain ⟨stack, tracks, -⟩ := followed.tracks (tracks_start.enter (by simp) (by simp) found)
    exact ⟨stack, tracks, by simp⟩
  | finish leads found followed =>
    have inside := followed.tracks_ok (tracks_start.enter (by simp) (by simp) found)
    exact ⟨[], inside.write _ _ _, fun _ _ => rfl⟩

/-- The text that was gathered when bundling ends is that of the blocks in the order in which they
were written, although each file was put together on its own (`Follows.gathers`). -/
lemma Resolves.parts_eq (h : Resolves graph fault entry layer outcome)
    (finished : outcome = .ok progress) : progress.parts = [joined progress.blocks.reverse] := by
  cases h with
  | nowhere | unreadable | fail => simp at finished
  | @finish root text inside leads found followed =>
    obtain rfl := Except.ok.inj finished
    obtain ⟨groups, given, blocks, parts⟩ := followed.gathers rfl
    let block : Block := ⟨root, rootLayer layer root, Directive.strip text⟩
    have own : ∀ group ∈ groups ++ [[block]], group ≠ [] := by
      simpa [or_imp, forall_and] using given
    have outermost : inside.parts.reverse ++ [block.render] = (groups ++ [[block]]).map joined := by
      simp [parts, Progress.enter, joined, Text.join]
    have written : (block :: inside.blocks).reverse = (groups ++ [[block]]).flatten := by
      simp [blocks, Progress.start, Progress.fresh]
    calc
      _ = [Text.join "\n" (inside.parts.reverse ++ [block.render])] := rfl
      _ = [joined (groups ++ [[block]]).flatten] := by rw [outermost, joined_flatten own]
      _ = _ := by rw [← written]; rfl

/-- `Progress.finished` computes the marks and the parts from the trail and the blocks, so that
witnesses need to give only these. -/
lemma Resolves.eq_finished (h : Resolves graph fault entry layer outcome)
    (finished : outcome = .ok progress) :
    progress = .finished progress.trail progress.blocks := by
  have parts := h.parts_eq finished
  obtain ⟨stack, tracks, ended⟩ := h.tracks
  obtain rfl := ended progress finished
  rw [finished] at tracks
  have resolving : progress.resolving = [] := tracks.resolving
  have expanded : progress.expanded = progress.written := tracks.expanded
  calc
    progress = ⟨progress.trail, progress.blocks, progress.resolving, progress.expanded,
        progress.parts⟩ := rfl
    _ = _ := by
      rw [resolving, expanded, parts]
      rfl

/-! ## The blocks of a bundle -/

/-- A bundle that holds one block for each file that its root reaches. -/
structure Represents (graph : ImportGraph) (root : Location) (layer : Option Text) (bundle : Bundle)
    (blocks : List Block) : Prop where
  /-- The text is that of the blocks, with a line end between neighbours. -/
  text : bundle.text = Text.join "\n" (blocks.map Block.render)
  /-- A block holds the text of its file without the directives. -/
  body : ∀ block ∈ blocks, (graph.text? block.location).map Directive.strip = some block.body
  /-- A block is the layer that is named after its file; another name may be given to the root. -/
  layer : ∀ block ∈ blocks,
    block.layer =
      if block.location = root then rootLayer layer root else layerName block.location.stem
  /-- Files are entered, and blocks are written, in the orders of a depth-first traversal. -/
  order : DepthFirst graph.destinations [] [] [.ok root] (bundle.files.map .ok)
    ((blocks.map Block.location).map .ok)
  /-- No file has two blocks. -/
  nodup : (blocks.map Block.location).Nodup
  /-- The files with a block are those that the root reaches. -/
  mem_iff : ∀ location,
    location ∈ blocks.map Block.location ↔ graph.Reaches (.ok root) (.ok location)
  /-- The block of a file comes after the blocks of all files that it builds on. -/
  after : ∀ earlier block later, blocks = earlier ++ block :: later →
    ∀ location, graph.BuildsOn (.ok block.location) (.ok location) →
      location ∈ earlier.map Block.location
  /-- The block of the root is the last one. -/
  last : blocks.getLast?.map Block.location = some root
  /-- The files are those of the blocks. -/
  files_perm : bundle.files.Perm (blocks.map Block.location)
  /-- No file is listed twice. -/
  files_nodup : bundle.files.Nodup
  /-- The root is the first file. -/
  files_head : bundle.files.head? = some root

/-- All clauses of `Represents` on order follow from the one fact that the blocks are a depth-first
order of the graph; `DepthFirst` knows the rest. -/
lemma represents_of_depthFirst {bundle : Bundle} {blocks : List Block}
    (text : bundle.text = Text.join "\n" (blocks.map Block.render))
    (body : ∀ block ∈ blocks, (graph.text? block.location).map Directive.strip = some block.body)
    (layered : ∀ block ∈ blocks,
      block.layer =
        if block.location = root then rootLayer layer root else layerName block.location.stem)
    (order : DepthFirst graph.destinations [] [] [.ok root] (bundle.files.map .ok)
      ((blocks.map Block.location).map .ok)) :
    Represents graph root layer bundle blocks := by
  have injective : Function.Injective (Except.ok : Location → Destination) :=
    fun _ _ => Except.ok.inj
  have nodup : (blocks.map Block.location).Nodup := List.Nodup.of_map _ order.nodup
  have perm : bundle.files.Perm (blocks.map Block.location) :=
    (List.map_perm_map_iff injective).1 order.perm
  obtain ⟨head, last⟩ := order.ends
  refine ⟨text, body, layered, order, nodup, ?_, ?_, ?_, perm, perm.nodup_iff.2 nodup, ?_⟩
  · intro location
    rw [← List.mem_map_of_injective injective]
    exact order.mem_post_iff
  · rintro earlier block later rfl location builds
    have split :
        ((earlier ++ block :: later).map Block.location).map (Except.ok : _ → Destination) =
        (earlier.map Block.location).map .ok ++ .ok block.location ::
          (later.map Block.location).map .ok := by
      simp only [List.map_append, List.map_cons]
    rw [← List.mem_map_of_injective injective]
    exact order.transGen_before split builds
  · rw [List.getLast?_map] at last
    exact Option.map_injective injective (by simpa using last)
  · rw [List.head?_map] at head
    exact Option.map_injective injective head

/-- `Follows.depthFirst` gives the order, `eq_finished` the text, and `represents_of_depthFirst`
puts them together. -/
lemma Resolves.represents (h : Resolves graph fault entry layer outcome)
    (finished : outcome = .ok progress) :
    ∃ root, graph.settings.current.resolve entry = .ok root ∧
      Represents graph root layer (ofProgress progress) progress.blocks.reverse := by
  have gathered : (ofProgress progress).text = joined progress.blocks.reverse := by
    rw [h.eq_finished finished, text_finished]
    rfl
  cases h with
  | nowhere | unreadable | fail => simp at finished
  | @finish root text inside leads found followed =>
    obtain rfl := Except.ok.inj finished
    obtain ⟨pre, post, entered, blocks, isBlock, order⟩ := followed.depthFirst rfl
    let block : Block := ⟨root, rootLayer layer root, Directive.strip text⟩
    have written : (inside.write [] root (rootLayer layer root) text).blocks.reverse =
        post ++ [block] := by
      simp [Progress.write, blocks, block, Progress.start, Progress.fresh]
    have files : (ofProgress (inside.write [] root (rootLayer layer root) text)).files =
        root :: pre := entered
    -- the root is not among the files that it leads to, or it would have been met again
    have others : ∀ other ∈ post, other.location ≠ root := by
      intro other mem same
      have fresh := order.fresh_of_mem (.ok other.location)
        (List.mem_map_of_mem (List.mem_map_of_mem mem))
      exact fresh.1 (by simp [same])
    refine ⟨root, leads, ?_⟩
    rw [written]
    refine represents_of_depthFirst ?_ ?_ ?_ ?_
    · rw [← written]
      exact gathered
    · intro other mem
      rcases List.mem_append.1 mem with mem | mem
      · exact (isBlock other mem).2
      · obtain rfl := List.mem_singleton.1 mem
        simp [block, found]
    · intro other mem
      rcases List.mem_append.1 mem with mem | mem
      · rw [if_neg (others other mem)]
        exact (isBlock other mem).1
      · obtain rfl := List.mem_singleton.1 mem
        simp [block]
    · have inner : DepthFirst graph.destinations [.ok root] [] (graph.destinations (.ok root))
          (pre.map .ok) ((post.map Block.location).map .ok) := by
        simpa [ImportGraph.destinations, ImportGraph.directives_eq found] using order
      rw [files]
      simpa [block] using DepthFirst.visit (by simp) (by simp) inner .nil

/-- Where bundling succeeds, everything that is reached can be read and builds on other files only,
the latter by `DepthFirst.acyclic`. -/
lemma Represents.sound {bundle : Bundle} {blocks : List Block} {destination : Destination}
    (h : Represents graph root layer bundle blocks)
    (reached : graph.Reaches (.ok root) destination) :
    graph.Readable destination ∧ ¬ graph.BuildsOn destination destination := by
  refine ⟨?_, h.order.acyclic reached⟩
  obtain ⟨location, mem, rfl⟩ := List.mem_map.1 (h.order.mem_post_iff.2 reached)
  obtain ⟨block, written, rfl⟩ := List.mem_map.1 mem
  obtain ⟨text, found, -⟩ := Option.map_eq_some_iff.1 (h.body block written)
  exact ⟨text, found⟩

/-! ## Why bundling fails -/

/-- Every file of a `Descent` reaches its innermost one, so that a directive back to any of them
makes a file build on itself. -/
lemma Descent.reaches_head (h : Descent graph root (importer :: outer)) :
    ∀ location ∈ importer :: outer, graph.Reaches (.ok location) (.ok importer) := by
  generalize shape : importer :: outer = stack at h
  induction h generalizing importer outer with
  | root =>
    obtain ⟨rfl, rfl⟩ := List.cons.inj shape
    intro location mem
    obtain rfl := List.mem_singleton.1 mem
    exact .refl
  | step _ leads _ ih =>
    obtain ⟨rfl, rfl⟩ := List.cons.inj shape
    intro location mem
    rcases List.mem_cons.1 mem with rfl | mem
    · exact .refl
    · exact (ih rfl location mem).tail leads

lemma Descent.root_mem {stack : List Location} (h : Descent graph root stack) : root ∈ stack := by
  induction h with
  | root => exact List.mem_singleton_self root
  | step _ _ _ ih => exact List.mem_cons_of_mem _ ih

/-- The converse of `Represents.sound`: `Follows.blames` finds a directive for the fault, and its
target is what cannot be read or builds on itself. -/
lemma Resolves.cause (h : Resolves graph fault entry layer outcome)
    (failed : outcome = .error failure) :
    ∃ destination, graph.Reaches (graph.settings.current.resolve entry) destination ∧
      (¬ graph.Readable destination ∨ graph.BuildsOn destination destination) := by
  cases h with
  | finish => simp at failed
  | @nowhere null leads => exact ⟨.error null, leads ▸ .refl, .inl id⟩
  | @unreadable root leads missing =>
    refine ⟨.ok root, leads ▸ .refl, .inl ?_⟩
    rintro ⟨text, found⟩
    simp [missing] at found
  | @fail root text failure leads found followed =>
    obtain ⟨importer, outer, descent, directive, mem, blame⟩ :=
      followed.blames rfl .root (by simp [ImportGraph.directives_eq found])
    have reached : graph.Reaches (graph.settings.current.resolve entry) (.ok importer) :=
      leads ▸ descent.reaches_head root descent.root_mem
    cases fault : failure.fault with
    | path null =>
      rw [fault] at blame
      exact ⟨.error null, reached.tail (ImportGraph.leadsTo_target mem blame), .inl id⟩
    | cycle location chain =>
      rw [fault] at blame
      obtain ⟨target, met, -⟩ := blame
      have step := ImportGraph.leadsTo_target mem target
      exact ⟨.ok location, reached.tail step,
        .inr (Relation.TransGen.tail' (descent.reaches_head location met) step)⟩
    | load origin location reason =>
      rw [fault] at blame
      obtain ⟨target, -, missing, -⟩ := blame
      refine ⟨.ok location, reached.tail (ImportGraph.leadsTo_target mem target), .inl ?_⟩
      rintro ⟨text, found⟩
      simp [missing] at found

/-! ## Traversals by depth -/

variable {settings : Settings} {available : List (Location × Text)} {directives : List Directive}

/-- Follows directives as `expand` does, but leaves what a file builds on to `inside`. -/
def expandBy (settings : Settings) (fault : Location → ReadFault)
    (inside : List (Location × Text) → Location → List Directive → Progress →
      Except Failure Progress) (available : List (Location × Text)) (importer : Location) :
    List Directive → Progress → Except Failure Progress
  | [], progress => .ok progress
  | directive :: directives, progress =>
    match settings.target importer directive with
    | .error null => .error ⟨.path null, progress⟩
    | .ok location =>
      if location ∈ progress.resolving then
        .error ⟨.cycle location progress.resolving.reverse, progress⟩
      else if location ∈ progress.expanded then
        expandBy settings fault inside available importer directives (progress.skip location)
      else
        match Catalog.text? available location with
        | none =>
          .error ⟨.load (.directive directive.kind) location (fault location), progress⟩
        | some text =>
          match
            inside (Catalog.without available location) location (Directive.scan text)
              (progress.enter location text) with
          | .error failure => .error failure
          | .ok left =>
            expandBy settings fault inside available importer directives
              (left.write progress.parts location (layerName location.stem) text)

/-- Follows directives as `expand` does, but not deeper than the given depth.  The recursion is on
the depth, so that traversals of given trees can be evaluated. -/
def expandWithin (settings : Settings) (fault : Location → ReadFault) :
    Nat → List (Location × Text) → Location → List Directive → Progress →
      Except Failure Progress
  | 0 => expandBy settings fault fun _ _ _ progress => .ok progress
  | depth + 1 => expandBy settings fault (expandWithin settings fault depth)

/-- `expandBy` is `expand` with its inner call replaced, so it makes no difference to use something
that does the same on fewer files. -/
lemma expandBy_eq_expand {inside : List (Location × Text) → Location → List Directive →
      Progress → Except Failure Progress}
    (same : ∀ location text, Catalog.text? available location = some text →
      inside (Catalog.without available location) location =
        expand settings fault (Catalog.without available location) location) :
    expandBy settings fault inside available importer directives progress =
      expand settings fault available importer directives progress := by
  induction directives generalizing progress with
  | nil => rw [expandBy, expand]
  | cons directive directives ih =>
    rw [expandBy, expand]
    simp only [ih]
    cases settings.target importer directive with
    | error null => rfl
    | ok location =>
      simp only
      split
      · rfl
      · split
        · rfl
        · symm
          split
          · rename_i missing
            simp only [missing]
          · rename_i text found
            rw [same location text found]
            generalize Catalog.text? available location = read at found
            subst found
            rfl

/-- Each file that is followed is one fewer that can be read (`Catalog.length_without_lt`), so that
no traversal goes deeper than there are files. -/
lemma expandWithin_eq_expand {depth : Nat} (deep : available.length ≤ depth) :
    expandWithin settings fault depth available importer =
      expand settings fault available importer := by
  funext directives progress
  induction depth generalizing available importer directives progress with
  | zero =>
    obtain rfl := List.eq_nil_of_length_eq_zero (Nat.le_zero.1 deep)
    exact expandBy_eq_expand fun location text found => by simp [Catalog.text?] at found
  | succ depth ih =>
    refine expandBy_eq_expand fun location text found => ?_
    have fewer := Catalog.length_without_lt found
    funext directives progress
    exact ih (by omega) directives progress

/-- `expand` recurses on a pair of measures and does not reduce; with this equation a traversal of a
given tree is evaluated by `expandWithin`. -/
lemma expand_eq : @expand = fun settings fault available =>
    expandWithin settings fault available.length available := by
  funext settings fault available importer
  exact (expandWithin_eq_expand (Nat.le_refl _)).symm

end Bundle

/-! ## Sessions and trees -/

namespace Session

/-- A session bundles in its tree, in which some files keep the texts that were read before.  The
marks of earlier calls play no part, because they are cleared first (`Session.reset`). -/
lemma resolve_fst (session : Session) (tree : FileTree) (entry : Path) (layer : Option Text) :
    (session.resolve tree entry layer).1 =
      Bundle.resolve ((Catalog.ofTree tree).overlay session.cache) session.settings entry
        layer := by
  unfold Session.resolve Bundle.resolve
  cases session.settings.current.resolve entry with
  | error null => rfl
  | ok root =>
    simp only
    split <;> rename_i ran <;> exact ran.symm

lemma resolves (session : Session) (tree : FileTree) (entry : Path) (layer : Option Text) :
    Bundle.Resolves (.ofSession session tree) (Catalog.ofTree tree).fault entry layer
      (session.resolve tree entry layer).1 := by
  have agrees : ∀ location,
      Catalog.text? ((Catalog.ofTree tree).overlay session.cache).texts location =
        (ImportGraph.ofSession session tree).text? location := by
    intro location
    rw [Catalog.text?_overlay, Catalog.text?_ofTree]
    rfl
  rw [resolve_fst]
  exact Bundle.resolves_resolve agrees

/-- What a session bundles is the entry with every file that it reaches, each in one block, in the
order in which a depth-first traversal leaves them (`Bundle.Represents`, `DepthFirst`). -/
theorem resolve_represents (session : Session) (tree : FileTree) (entry : Path)
    (layer : Option Text) (progress : Progress)
    (resolved : (session.resolve tree entry layer).1 = .ok progress) :
    ∃ root, session.settings.current.resolve entry = .ok root ∧
      Bundle.Represents (.ofSession session tree) root layer (Bundle.ofProgress progress)
        progress.blocks.reverse :=
  (session.resolves tree entry layer).represents resolved

/-- Four files in one directory: two of them import the same third one, by different paths. -/
def diamond : FileTree where
  nodes := [
    (⟨["page.lui".toList]⟩, .file (Utf8.encode "IMPORT (left)\nTEMPLATE (right.lui)\n".toList)),
    (⟨["left.lui".toList]⟩, .file (Utf8.encode "IMPORT (./base)\n".toList)),
    (⟨["right.lui".toList]⟩, .file (Utf8.encode "IMPORT (../base.lui)\n".toList)),
    (⟨["base.lui".toList]⟩, .file (Utf8.encode "VAR gap = 4\n".toList))]

theorem resolve_represents_diamond :
    let session := Session.start ⟨.root, Path.parse "/".toList, ".lui".toList⟩
    ∃ progress, (session.resolve diamond (Path.parse "page.lui".toList) none).1 = .ok progress ∧
      ∃ root, session.settings.current.resolve (Path.parse "page.lui".toList) = .ok root ∧
        Bundle.Represents (.ofSession session diamond) root none (Bundle.ofProgress progress)
          progress.blocks.reverse := by
  intro session
  have finished :
      (session.resolve diamond (Path.parse "page.lui".toList) none).1.toOption.isSome := by
    unfold resolve Bundle.follow
    rw [Bundle.expand_eq]
    decide +kernel
  obtain ⟨progress, finished⟩ := Option.isSome_iff_exists.1 finished
  have resolved := toOption_eq_some_iff.1 finished
  exact ⟨progress, resolved, resolve_represents session diamond _ none progress resolved⟩

/-- In a tree in which nothing was read yet, bundling comes to an end by its rules
(`Bundle.Resolves`) and enters no file twice.  It succeeds exactly when everything that the entry
reaches, and the entry itself, can be read and none of it builds on itself. -/
theorem resolve_start_ok_iff (tree : FileTree) (settings : Settings) (entry : Path)
    (layer : Option Text) :
    let outcome := ((Session.start settings).resolve tree entry layer).1
    let graph := ImportGraph.ofTree tree settings
    Bundle.Resolves graph (Catalog.ofTree tree).fault entry layer outcome ∧
      (progressOf outcome).entered.Nodup ∧
      (∀ location ∈ (progressOf outcome).entered, location ∈ tree.files) ∧
      ((∃ progress, outcome = .ok progress) ↔
        (∀ destination, graph.Reaches (settings.current.resolve entry) destination →
          graph.Readable destination) ∧
        ∀ destination, graph.Reaches (settings.current.resolve entry) destination →
          ¬ graph.BuildsOn destination destination) := by
  intro outcome graph
  have rules : Bundle.Resolves graph (Catalog.ofTree tree).fault entry layer outcome :=
    (Session.start settings).resolves tree entry layer
  obtain ⟨stack, tracks, -⟩ := rules.tracks
  refine ⟨rules, tracks.nodup, ?_, ?_, ?_⟩
  · intro location mem
    obtain ⟨text, found⟩ := tracks.readable location mem
    cases read : tree.read location with
    | error fault => simp [graph, ImportGraph.ofTree, read, Except.toOption] at found
    | ok text => exact FileTree.mem_files_of_read read
  · rintro ⟨progress, finished⟩
    obtain ⟨root, leads, represents⟩ := rules.represents finished
    have sound {destination : Destination}
        (reached : graph.Reaches (settings.current.resolve entry) destination) :
        graph.Readable destination ∧ ¬ graph.BuildsOn destination destination :=
      represents.sound (leads ▸ reached)
    exact ⟨fun _ reached => (sound reached).1, fun _ reached => (sound reached).2⟩
  · rintro ⟨readable, acyclic⟩
    cases ended : outcome with
    | ok progress => exact ⟨progress, rfl⟩
    | error failure =>
      obtain ⟨destination, reached, cause⟩ := rules.cause ended
      rcases cause with unreadable | cyclic
      · exact absurd (readable destination reached) unreadable
      · exact absurd cyclic (acyclic destination reached)

end Session

end UtilityCss
