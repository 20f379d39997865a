import Mathlib.Data.List.Chain
import UtilityCss.Proofs.Import.Reuse

/-!
# What a failed bundling shows

A fault that bundling reports can be checked in the files themselves, without following directives
again.  A cycle comes with the files that lead to it (`ImportGraph.Cycle`): they begin with the
entry, each holds a directive for the next one, and the last one leads back into the chain.  A file
that could not be loaded is the entry, or is named by a directive of the reported kind in a file
that the entry reaches, and reading it gives the reported reason (`ImportFault.Evident`).

The files that are being followed when the traversal stops are a `Descent`, whatever other branches
it has left before; `Descent.isChain`, `Descent.nodup` and `Descent.getLast?` read the chain off it.
-/

namespace UtilityCss

variable {graph : ImportGraph} {fault : Location → ReadFault} {root importer location : Location}
  {outer stack : List Location} {entry : Path} {layer : Option Text}
  {outcome : Except Failure Progress} {failure : Failure}

namespace ImportGraph

/-- Some directive in the text of a file leads to a location. -/
def Imports (graph : ImportGraph) (importer location : Location) : Prop :=
  ∃ directive, graph.Names importer directive location

lemma imports_of_leadsTo (leads : LeadsTo graph.destinations (.ok importer) (.ok location)) :
    graph.Imports importer location := by
  obtain ⟨directive, mem, target⟩ := List.mem_map.1 leads
  exact ⟨directive, mem, target⟩

/-- Files that import each other, from the root on, until the last one imports one of them again. -/
structure Cycle (graph : ImportGraph) (root : Location) (chain : List Location)
    (location : Location) : Prop where
  /-- The root is the first file. -/
  head : chain.head? = some root
  /-- No file is there twice. -/
  nodup : chain.Nodup
  /-- Each file imports the next one. -/
  linked : chain.IsChain graph.Imports
  /-- The last file imports the location that closes the cycle. -/
  closing : ∃ last, chain.getLast? = some last ∧ graph.Imports last location
  /-- That location is one of the files. -/
  met : location ∈ chain

/-- Why a location is wanted: it is the entry, or a directive of the given kind in a file that the
entry reaches leads to it. -/
def Wanted (graph : ImportGraph) (entry : Path) (location : Location) : Origin → Prop
  | .entry => graph.settings.current.resolve entry = .ok location
  | .directive kind => ∃ root importer directive,
      graph.settings.current.resolve entry = .ok root ∧
        graph.Reaches (.ok root) (.ok importer) ∧ directive.kind = kind ∧
        graph.Names importer directive location

/-- The path of the entry leads nowhere, or that of a directive in a file that the entry reaches. -/
def Astray (graph : ImportGraph) (entry : Path) (null : NullInPath) : Prop :=
  graph.settings.current.resolve entry = .error null ∨
    ∃ root importer directive, graph.settings.current.resolve entry = .ok root ∧
      graph.Reaches (.ok root) (.ok importer) ∧ directive ∈ graph.directives importer ∧
      graph.settings.target importer directive = .error null

end ImportGraph

/-- What a fault says is so in the files, as `read` gives them. -/
def ImportFault.Evident (graph : ImportGraph) (read : Location → Except ReadFault Text)
    (entry : Path) : ImportFault → Prop
  | .cycle location chain => ∃ root, graph.settings.current.resolve entry = .ok root ∧
      graph.Cycle root chain location
  | .load origin location reason => graph.Wanted entry location origin ∧
      read location = .error reason
  | .path null => graph.Astray entry null

/-! ## The files that are being followed -/

namespace Bundle

theorem Descent.nodup (h : Descent graph root stack) : stack.Nodup := by
  induction h with
  | root => exact List.nodup_singleton root
  | step _ _ closed ih => exact List.nodup_cons.2 ⟨closed, ih⟩

theorem Descent.getLast? (h : Descent graph root stack) : stack.getLast? = some root := by
  induction h with
  | root => rfl
  | step _ _ _ ih => rw [List.getLast?_cons_cons, ih]

/-- A `Descent` grows at its inner end, so that the chain that is reported, from the root on, is its
reverse. -/
theorem Descent.isChain (h : Descent graph root stack) : stack.reverse.IsChain graph.Imports := by
  rw [List.isChain_reverse]
  induction h with
  | root => exact List.isChain_singleton root
  | step _ leads _ ih => exact List.isChain_cons_cons.2 ⟨ImportGraph.imports_of_leadsTo leads, ih⟩

/-- A directive in the innermost file that leads back into the `Descent` closes a `Cycle`, whose
chain is what `Progress.resolving` holds at that moment. -/
lemma Descent.cycle {directive : Directive} (h : Descent graph root (importer :: outer))
    (names : graph.Names importer directive location) (met : location ∈ importer :: outer) :
    graph.Cycle root (importer :: outer).reverse location where
  head := by rw [List.head?_reverse, h.getLast?]
  nodup := List.nodup_reverse.2 h.nodup
  linked := h.isChain
  closing := ⟨importer, by rw [List.getLast?_reverse, List.head?_cons], directive, names⟩
  met := List.mem_reverse.2 met

/-! ## Every fault is evident -/

/-- `Follows.blames` says what the traversal saw; here it becomes a fact about `graph` and `read`
alone, so that the fault can be checked without running anything. -/
lemma Resolves.evident {read : Location → Except ReadFault Text}
    (h : Resolves graph fault entry layer outcome) (failed : outcome = .error failure)
    (reads : ∀ location, graph.text? location = none → read location = .error (fault location)) :
    failure.fault.Evident graph read entry := by
  cases h with
  | finish => simp at failed
  | nowhere leads =>
    obtain rfl := Except.error.inj failed
    exact .inl leads
  | @unreadable root leads missing =>
    obtain rfl := Except.error.inj failed
    exact ⟨leads, reads root missing⟩
  | @fail root text failure' leads found followed =>
    obtain rfl := Except.error.inj failed
    obtain ⟨importer, outer, descent, directive, mem, blame⟩ :=
      followed.blames rfl .root (by simp [ImportGraph.directives_eq found])
    have reached : graph.Reaches (.ok root) (.ok importer) :=
      descent.reaches_head root descent.root_mem
    cases reported : failure'.fault with
    | path null =>
      rw [reported] at blame
      exact .inr ⟨root, importer, directive, leads, reached, mem, blame⟩
    | cycle location chain =>
      rw [reported] at blame
      obtain ⟨target, met, rfl⟩ := blame
      exact ⟨root, leads, descent.cycle ⟨mem, target⟩ met⟩
    | load origin location reason =>
      rw [reported] at blame
      obtain ⟨target, rfl, missing, rfl⟩ := blame
      exact ⟨⟨root, importer, directive, leads, reached, rfl, mem, target⟩, reads location missing⟩

end Bundle

namespace Session

/-- A session has no text for a file only if its tree has none, and then `Catalog.fault` is what
reading the file gives. -/
lemma readWith_of_missing {session : Session} {tree : FileTree}
    (missing : (ImportGraph.ofSession session tree).text? location = none) :
    tree.readWith (session.cache.lookup ·) location =
      .error ((Catalog.ofTree tree).fault location) := by
  obtain ⟨unknown, unreadable⟩ := Option.or_eq_none_iff.1 missing
  unfold FileTree.readWith
  simp only [unknown, Catalog.ofTree]
  cases read : tree.read location with
  | error reason => rfl
  | ok text => simp [read, Except.toOption] at unreadable

/-- Whatever fault a session reports, the files show it (`ImportFault.Evident`): a cycle by the
chain that comes with it, a file that could not be loaded by who asks for it and by what reading it
gives. -/
theorem resolve_evident (session : Session) (tree : FileTree) (entry : Path) (layer : Option Text)
    (failure : Failure) (failed : (session.resolve tree entry layer).1 = .error failure) :
    failure.fault.Evident (.ofSession session tree) (tree.readWith (session.cache.lookup ·))
      entry :=
  (session.resolves tree entry layer).evident failed fun _ => readWith_of_missing

/-! ## A cycle and a missing file

A page imports two files.  The first one is complete, so it is written and left before the second
one is found to import the page; it is no part of the chain. -/

def detour : Call where
  tree := ⟨[
    (pageFile, .file (Utf8.encode "IMPORT (base)\nIMPORT (left)".toList)),
    (baseFile, .file (Utf8.encode "VAR gap = 4".toList)),
    (⟨["left.lui".toList]⟩, .file (Utf8.encode "TEMPLATE (page)".toList))]⟩
  entry := Path.parse "page.lui".toList
  layer := none

def circle : Failure where
  fault := .cycle pageFile [pageFile, ⟨["left.lui".toList]⟩]
  progress := {
    trail := [
      .entered ⟨["left.lui".toList]⟩ "TEMPLATE (page)",
      .entered baseFile "VAR gap = 4",
      .entered pageFile "IMPORT (base)\nIMPORT (left)"]
    blocks := [⟨baseFile, "base", "VAR gap = 4"⟩]
    resolving := [⟨["left.lui".toList]⟩, pageFile]
    expanded := [baseFile]
    parts := [] }

def missingBase : Failure where
  fault := .load (.directive .sibling) baseFile (.access .notFound)
  progress := {
    trail := [.entered gridFile "VAR gap = 2", .entered pageFile "IMPORT (grid)\nIMPORT (base)"]
    blocks := [⟨gridFile, "grid", "VAR gap = 2"⟩]
    resolving := [pageFile]
    expanded := [gridFile]
    parts := ["LAYER grid START\nVAR gap = 2\nLAYER grid END\n"] }

theorem resolve_evident_detour :
    let session := Session.start pageSettings
    session.answer detour = .error circle ∧
      circle.fault.Evident (.ofSession session detour.tree)
        (detour.tree.readWith (session.cache.lookup ·)) detour.entry ∧
      session.answer withoutBase = .error missingBase ∧
      missingBase.fault.Evident (.ofSession session withoutBase.tree)
        (withoutBase.tree.readWith (session.cache.lookup ·)) withoutBase.entry := by
  intro session
  have closed : session.answer detour = .error circle := by
    unfold answer resolve Bundle.follow
    rw [Bundle.expand_eq]
    decide +kernel
  have lost : session.answer withoutBase = .error missingBase := by
    unfold answer resolve Bundle.follow
    rw [Bundle.expand_eq]
    decide +kernel
  exact ⟨closed, resolve_evident session detour.tree detour.entry detour.layer circle closed, lost,
    resolve_evident session withoutBase.tree withoutBase.entry withoutBase.layer missingBase lost⟩

end Session

end UtilityCss
