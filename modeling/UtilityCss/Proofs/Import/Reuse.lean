import UtilityCss.Proofs.Import.Resolution

/-!
# Sessions in a changing tree

A session bundles again and again while files are written and deleted.  A file that it has read once
keeps its text, and that is all that it keeps: each answer is the one that a new session would give
if the files read before still had the texts that were read first (`Session.answer_after`).

Of the state of a session three parts outlive a call: the texts that were read, the files that were
being followed and the files that were written.  The last two are marks that a failed call leaves as
they stand in the middle of the traversal (`Session.next_of_root`).  They are cleared by the next
call before it looks at them, which is what `Session.answer_marked` comes down to.

For the texts, the rules of the traversal determine its outcome (`Bundle.Follows.expand_eq`), so
that the outcome depends on nothing but what reading each file gives (`Bundle.resolve_congr`).  The
trail of a traversal holds the texts as they were read, also when it failed
(`Bundle.Resolves.faithful`), and so what a session remembers after its calls are the first texts
(`Session.lookup_after`).
-/

namespace UtilityCss

variable {graph : ImportGraph} {fault other : Location → ReadFault} {importer location : Location}
  {outer : List Location} {directives : List Directive} {entry : Path} {layer : Option Text}
  {progress : Progress} {outcome : Except Failure Progress}

/-! ## The rules determine the outcome -/

namespace Bundle

/-- The converse of `follows_expand`.  The rules mention neither `available` nor the marks of
`progress`, so a derivation for one graph gives the outcome of `expand` on any texts that agree with
it. -/
theorem Follows.expand_eq {available : List (Location × Text)}
    (h : Follows graph fault outer importer directives progress outcome)
    (tracks : Tracks graph (importer :: outer) progress)
    (complete : ∀ location, location ∉ importer :: outer →
      Catalog.text? available location = graph.text? location)
    (faults : ∀ location, graph.text? location = none → other location = fault location) :
    expand graph.settings other available importer directives progress = outcome := by
  induction h generalizing available with
  | finished => rw [expand]
  | nowhere leads =>
    rw [expand]
    simp only [leads]
  | cycle leads met =>
    rw [expand]
    simp only [leads, tracks.resolving, if_pos met]
  | skip leads closed done rest ih =>
    rw [expand]
    simp only [leads, tracks.resolving, tracks.expanded, if_neg closed, if_pos done]
    exact ih tracks.skip complete
  | unreadable leads closed fresh missing =>
    rw [expand]
    simp only [leads, tracks.resolving, tracks.expanded, if_neg closed, if_neg fresh]
    split
    · rw [faults _ missing]
    · rename_i found
      simp [complete _ closed, missing] at found
  | @fail outer importer location directive directives progress text failure leads closed fresh
      found inner ih =>
    rw [expand]
    simp only [leads, tracks.resolving, tracks.expanded, if_neg closed, if_neg fresh]
    split
    · rename_i missing
      simp [complete _ closed, found] at missing
    · rename_i same
      obtain rfl := Option.some.inj (found.symm.trans ((complete _ closed).symm.trans same))
      rw [ih (tracks.enter closed fresh found) (complete_without complete)]
  | enter leads closed fresh found inner rest ihInner ihRest =>
    rw [expand]
    simp only [leads, tracks.resolving, tracks.expanded, if_neg closed, if_neg fresh]
    split
    · rename_i missing
      simp [complete _ closed, found] at missing
    · rename_i same
      obtain rfl := Option.some.inj (found.symm.trans ((complete _ closed).symm.trans same))
      have entered := tracks.enter closed fresh found
      rw [ihInner entered (complete_without complete)]
      exact ihRest ((inner.tracks_ok entered).write _ _ _) complete

lemma Resolves.resolve_eq {catalog : Catalog} (h : Resolves graph fault entry layer outcome)
    (agrees : ∀ location, Catalog.text? catalog.texts location = graph.text? location)
    (faults : ∀ location, graph.text? location = none → catalog.fault location = fault location) :
    resolve catalog graph.settings entry layer = outcome := by
  unfold resolve
  cases h with
  | nowhere leads => simp only [leads]
  | unreadable leads missing => simp only [leads, follow, agrees, missing, faults _ missing]
  | fail leads found followed =>
    simp only [leads, follow, agrees, found]
    rw [followed.expand_eq (tracks_start.enter (by simp) (by simp) found)
      (complete_without fun other _ => agrees other) faults]
    rfl
  | finish leads found followed =>
    simp only [leads, follow, agrees, found]
    rw [followed.expand_eq (tracks_start.enter (by simp) (by simp) found)
      (complete_without fun other _ => agrees other) faults]
    rfl

end Bundle

/-! ## What reading a file of a catalog gives -/

/-- The text of a file of a catalog, or why it cannot be read. -/
def Catalog.read (catalog : Catalog) (location : Location) : Except ReadFault Text :=
  match text? catalog.texts location with
  | some text => .ok text
  | none => .error (catalog.fault location)

/-- The text of a file, where some files keep a text whatever becomes of them. -/
def FileTree.readWith (kept : Location → Option Text) (tree : FileTree) (location : Location) :
    Except ReadFault Text :=
  match kept location with
  | some text => .ok text
  | none => tree.read location

lemma Catalog.read_overlay_ofTree (tree : FileTree) (cache : List (Location × Text))
    (location : Location) :
    ((ofTree tree).overlay cache).read location = tree.readWith (cache.lookup ·) location := by
  unfold Catalog.read FileTree.readWith
  rw [text?_overlay, text?_ofTree]
  simp only [overlay, ofTree]
  cases cache.lookup location with
  | some text => rfl
  | none => cases tree.read location <;> rfl

/-- `Resolves` is stated over a graph, which knows what `Catalog.read` gives and nothing else, and
by `Resolves.resolve_eq` it determines the outcome. -/
theorem Bundle.resolve_congr {catalog same : Catalog} (settings : Settings)
    (reads : ∀ location, catalog.read location = same.read location) :
    resolve catalog settings entry layer = resolve same settings entry layer := by
  have texts (location : Location) :
      Catalog.text? catalog.texts location = Catalog.text? same.texts location := by
    have read := reads location
    unfold Catalog.read at read
    split at read <;> split at read <;> simp_all
  have faults (location : Location) (missing : Catalog.text? same.texts location = none) :
      catalog.fault location = same.fault location := by
    simpa [Catalog.read, texts, missing] using reads location
  let graph : ImportGraph := ⟨Catalog.text? same.texts, settings⟩
  have rules : Resolves graph same.fault entry layer (resolve same settings entry layer) :=
    resolves_resolve fun _ => rfl
  exact rules.resolve_eq texts faults

/-! ## The trail holds the texts as they were read -/

namespace Bundle

/-- The texts of the files that were entered are those of the graph. -/
def Faithful (graph : ImportGraph) (progress : Progress) : Prop :=
  ∀ location text, .entered location text ∈ progress.trail → graph.text? location = some text

lemma Faithful.enter {text : Text} (faithful : Faithful graph progress)
    (found : graph.text? location = some text) :
    Faithful graph (progress.enter location text) := by
  intro other read mem
  rcases List.mem_cons.1 mem with same | mem
  · obtain ⟨rfl, rfl⟩ := Visit.entered.inj same
    exact found
  · exact faithful other read mem

lemma Faithful.skip (faithful : Faithful graph progress) :
    Faithful graph (progress.skip location) := by
  intro other read mem
  rcases List.mem_cons.1 mem with same | mem
  · exact absurd same nofun
  · exact faithful other read mem

lemma Follows.faithful (h : Follows graph fault outer importer directives progress outcome)
    (faithful : Faithful graph progress) : Faithful graph (progressOf outcome) := by
  induction h with
  | finished | nowhere | cycle | unreadable => exact faithful
  | skip _ _ _ _ ih => exact ih faithful.skip
  | fail _ _ _ found _ ih => exact ih (faithful.enter found)
  | enter _ _ _ found _ _ ihInner ihRest => exact ihRest (ihInner (faithful.enter found))

theorem Resolves.faithful (h : Resolves graph fault entry layer outcome) :
    Faithful graph (progressOf outcome) := by
  have start : Faithful graph .start := nofun
  cases h with
  | nowhere | unreadable => exact start
  | fail _ found followed => exact followed.faithful (start.enter found)
  | finish _ found followed => exact followed.faithful (start.enter found)

lemma mem_trail_of_entered? {location : Location} {text : Text}
    (mem : (location, text) ∈ progress.visits.filterMap Visit.entered?) :
    .entered location text ∈ progress.trail := by
  obtain ⟨visit, taken, view⟩ := List.mem_filterMap.1 mem
  cases visit with
  | skipped => simp [Visit.entered?] at view
  | entered =>
    obtain ⟨rfl, rfl⟩ := Prod.mk.inj (Option.some.inj view)
    exact List.mem_reverse.1 taken

/-- The trail holds the text of each file that was entered, and by `Faithful` this is the text of
the graph; `Session.remember` takes it from there. -/
lemma Faithful.lookup (faithful : Faithful graph progress) (location : Location) :
    (progress.visits.filterMap Visit.entered?).lookup location =
      if location ∈ progress.entered then graph.text? location else none := by
  have keys : progress.entered = (progress.visits.filterMap Visit.entered?).map Prod.fst :=
    List.map_filterMap.symm
  rw [keys]
  have texts : ∀ pair ∈ progress.visits.filterMap Visit.entered?,
      graph.text? pair.1 = some pair.2 :=
    fun pair mem => faithful pair.1 pair.2 (mem_trail_of_entered? mem)
  generalize progress.visits.filterMap Visit.entered? = pairs at texts
  induction pairs with
  | nil => rfl
  | cons pair pairs ih =>
    obtain ⟨here, later⟩ := List.forall_mem_cons.1 texts
    rw [List.lookup_cons, ih later]
    by_cases same : location = pair.1
    · subst same
      simp [here]
    · have differs : (location == pair.1) = false := by simpa using same
      simp only [differs, List.map_cons, List.mem_cons, same, false_or]

end Bundle

/-! ## Calls -/

/-- A file to be bundled, in the tree as it is at the time. -/
structure Call where
  tree : FileTree
  entry : Path
  layer : Option Text
deriving DecidableEq, Repr

namespace Session

/-- What a session gives for a call. -/
def answer (session : Session) (call : Call) : Except Failure Progress :=
  (session.resolve call.tree call.entry call.layer).1

/-- The session after a call. -/
def next (session : Session) (call : Call) : Session :=
  (session.resolve call.tree call.entry call.layer).2

/-- The session after calls. -/
def after (session : Session) (calls : List Call) : Session := calls.foldl next session

/-- The text that the tree of a call has for a file, if the call enters the file. -/
def read? (session : Session) (call : Call) (location : Location) : Option Text :=
  if location ∈ (progressOf (session.answer call)).entered then
    (call.tree.read location).toOption
  else none

/-- The text that the first of some calls reads, of those that enter a file at all. -/
def firstRead? (session : Session) : List Call → Location → Option Text
  | [], _ => none
  | call :: calls, location =>
    (session.read? call location).or ((session.next call).firstRead? calls location)

/-- `Session.resolve` refuses such a path before it clears its marks or reads anything. -/
lemma next_of_nowhere {session : Session} {call : Call} {null : NullInPath}
    (leads : session.settings.current.resolve call.entry = .error null) :
    session.next call = session ∧ session.answer call = .error ⟨.path null, .start⟩ := by
  unfold next answer resolve
  simp only [leads, and_self]

/-- Any other call leaves a session with what the traversal read and with its marks, finished or not
(`progressOf`). -/
theorem next_of_root {session : Session} {call : Call} {root : Location}
    (leads : session.settings.current.resolve call.entry = .ok root) :
    session.next call = session.remember (progressOf (session.answer call)) := by
  unfold next answer resolve
  simp only [leads]
  split <;> rfl

/-- The marks that a session holds make no difference to what it gives, since `Session.resolve_fst`
does not mention them. -/
theorem answer_marked (session : Session) (resolving expanded : List Location) (call : Call) :
    { session with resolving, expanded }.answer call = session.answer call := by
  unfold answer
  rw [resolve_fst, resolve_fst]

lemma lookup_remember (session : Session) (progress : Progress) (location : Location) :
    (session.remember progress).cache.lookup location =
      (session.cache.lookup location).or
        ((progress.visits.filterMap Visit.entered?).lookup location) := by
  unfold remember
  simp only [List.lookup_append]
  cases known : session.cache.lookup location with
  | some text => rfl
  | none =>
    rw [Option.none_or, Option.none_or]
    exact Catalog.lookup_filter (fun key => (session.cache.lookup key).isNone) (by simp [known]) _

/-- The step for `lookup_after`: a call adds the texts of the files that it reads and that were not
read before, which `Session.remember` appends behind the old ones. -/
lemma lookup_next (session : Session) (call : Call) (location : Location) :
    (session.next call).cache.lookup location =
      (session.cache.lookup location).or (session.read? call location) := by
  have faithful : Bundle.Faithful (.ofSession session call.tree)
      (progressOf (session.answer call)) :=
    (session.resolves call.tree call.entry call.layer).faithful
  cases leads : session.settings.current.resolve call.entry with
  | error null =>
    obtain ⟨kept, failed⟩ := next_of_nowhere leads
    simp [kept, read?, failed, progressOf]
  | ok root =>
    rw [next_of_root leads, lookup_remember, faithful.lookup]
    cases known : session.cache.lookup location with
    | some text => rfl
    | none =>
      unfold read?
      simp only [Option.none_or, ImportGraph.ofSession, known]

/-- The run, by `lookup_next`: what a session remembers after calls is what it remembered before and
what the calls read first (`firstRead?`). -/
theorem lookup_after (session : Session) (calls : List Call) (location : Location) :
    (session.after calls).cache.lookup location =
      (session.cache.lookup location).or (session.firstRead? calls location) := by
  induction calls generalizing session with
  | nil => simp [after, firstRead?]
  | cons call calls ih =>
    calc
      _ = ((session.next call).cache.lookup location).or
          ((session.next call).firstRead? calls location) := ih (session.next call)
      _ = _ := by rw [lookup_next, Option.or_assoc, firstRead?]

lemma settings_after (session : Session) (calls : List Call) :
    (session.after calls).settings = session.settings := by
  induction calls generalizing session with
  | nil => rfl
  | cons call calls ih =>
    have same : (session.next call).settings = session.settings := by
      cases leads : session.settings.current.resolve call.entry with
      | error null => rw [(next_of_nowhere leads).1]
      | ok root =>
        rw [next_of_root leads]
        rfl
    exact (ih (session.next call)).trans same

/-- Each call is answered as in a new session, where the files read before keep the texts that were
read first.  These files may have no place in one tree any more; whatever reads them so gives the
answer, be it a catalog or a tree.  The marks that earlier calls left, some of them in the middle of
a traversal, have no part in it: any other marks give the same answer. -/
theorem answer_after (settings : Settings) (calls : List Call) (call : Call) :
    let session := (Session.start settings).after calls
    let kept := (Session.start settings).firstRead? calls
    (∃ catalog : Catalog, ∀ location,
      catalog.read location = call.tree.readWith kept location) ∧
    (∀ catalog : Catalog,
      (∀ location, catalog.read location = call.tree.readWith kept location) →
      session.answer call = Bundle.resolve catalog settings call.entry call.layer) ∧
    (∀ tree : FileTree,
      (∀ location, tree.read location = call.tree.readWith kept location) →
      session.answer call = (Session.start settings).answer ⟨tree, call.entry, call.layer⟩) ∧
    (∀ resolving expanded,
      { session with resolving, expanded }.answer call = session.answer call) := by
  intro session kept
  let remembered : Catalog := (Catalog.ofTree call.tree).overlay session.cache
  have reads (location : Location) :
      remembered.read location = call.tree.readWith kept location := by
    have same : (session.cache.lookup ·) = kept :=
      funext fun asked => lookup_after (.start settings) calls asked
    rw [Catalog.read_overlay_ofTree, same]
  have answered : session.answer call =
      Bundle.resolve remembered settings call.entry call.layer := by
    have same : session.settings = settings := settings_after (.start settings) calls
    rw [Session.answer, resolve_fst, same]
  have catalogs (catalog : Catalog)
      (alike : ∀ location, catalog.read location = call.tree.readWith kept location) :
      session.answer call = Bundle.resolve catalog settings call.entry call.layer := by
    rw [answered]
    exact Bundle.resolve_congr settings fun location => (reads location).trans (alike location).symm
  refine ⟨⟨remembered, reads⟩, catalogs, fun tree alike => ?_, fun resolving expanded =>
    answer_marked session resolving expanded call⟩
  rw [Session.answer, Session.answer, resolve_fst (.start settings)]
  refine catalogs _ fun location => ?_
  rw [Catalog.read_overlay_ofTree]
  exact alike location

/-! ## A failed call

The first call reads the page, writes the grid that it imports and fails at what it imports next, so
the page stays marked as being followed and the grid as written.  When the files are written anew,
the page still is what it was, the grid is written although it is gone, and what was missing before
is read as it is now. -/

def pageSettings : Settings := ⟨.root, Path.parse "/".toList, ".lui".toList⟩

def pageFile : Location := ⟨["page.lui".toList]⟩

def gridFile : Location := ⟨["grid.lui".toList]⟩

def baseFile : Location := ⟨["base.lui".toList]⟩

def withoutBase : Call where
  tree := ⟨[
    (pageFile, .file (Utf8.encode "IMPORT (grid)\nIMPORT (base)".toList)),
    (gridFile, .file (Utf8.encode "VAR gap = 2".toList))]⟩
  entry := Path.parse "page.lui".toList
  layer := none

def withBase : Call where
  tree := ⟨[
    (pageFile, .file (Utf8.encode "VAR gap = 4".toList)),
    (baseFile, .file (Utf8.encode "VAR tint = red".toList))]⟩
  entry := Path.parse "page.lui".toList
  layer := none

def pageRead : List (Location × Text) :=
  [(pageFile, "IMPORT (grid)\nIMPORT (base)".toList), (gridFile, "VAR gap = 2".toList)]

lemma after_withoutBase : (Session.start pageSettings).after [withoutBase] =
    ⟨pageSettings, pageRead, [pageFile], [gridFile]⟩ := by
  change (Session.start pageSettings).next withoutBase = _
  unfold next resolve Bundle.follow
  rw [Bundle.expand_eq]
  decide +kernel

theorem answer_after_withoutBase :
    let session := (Session.start pageSettings).after [withoutBase]
    let kept := (Session.start pageSettings).firstRead? [withoutBase]
    let catalog := (Catalog.ofTree withBase.tree).overlay pageRead
    session.resolving = [pageFile] ∧ session.expanded = [gridFile] ∧
      (∀ location, catalog.read location = withBase.tree.readWith kept location) ∧
      session.answer withBase = Bundle.resolve catalog pageSettings withBase.entry none ∧
      { session with resolving := [], expanded := [] }.answer withBase = session.answer withBase ∧
      (∀ location, withBase.tree.read location = withBase.tree.readWith
        ((Session.start pageSettings).firstRead? []) location) ∧
      ((Session.start pageSettings).after []).answer withBase =
        (Session.start pageSettings).answer withBase := by
  intro session kept catalog
  have reads (location : Location) :
      catalog.read location = withBase.tree.readWith kept location := by
    have same : (pageRead.lookup ·) = kept := by
      funext asked
      have first := lookup_after (.start pageSettings) [withoutBase] asked
      rw [after_withoutBase] at first
      exact first
    rw [Catalog.read_overlay_ofTree, same]
  obtain ⟨-, catalogs, -, marks⟩ := answer_after pageSettings [withoutBase] withBase
  refine ⟨?_, ?_, reads, catalogs catalog reads, marks [] [], fun _ => rfl,
    (answer_after pageSettings [] withBase).2.2.1 withBase.tree fun _ => rfl⟩
  · exact congrArg Session.resolving after_withoutBase
  · exact congrArg Session.expanded after_withoutBase

end Session

end UtilityCss
