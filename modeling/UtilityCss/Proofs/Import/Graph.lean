import UtilityCss.Import.Bundle
import UtilityCss.Proofs.Import.DepthFirst
import UtilityCss.Proofs.Outcome

/-!
# The import graph

The files that can be read, together with the settings by which directives are followed, form a
directed graph.  Its vertices are destinations: the locations that paths lead to, and the failure
of a path that leads nowhere.  A location leads to the destinations of its directives, in the order
in which they are written; what cannot be read leads to nothing.

A catalog is one way to look the files up.  `Catalog.text?_ofTree` and `Catalog.text?_overlay` say
that it agrees with reading the tree itself, or what a session remembers of it.
-/

namespace UtilityCss

/-- Where a path leads, if it can be followed. -/
abbrev Destination := Except NullInPath Location

/-- The files as they can be read, and how their directives are followed. -/
structure ImportGraph where
  text? : Location → Option Text
  settings : Settings

namespace ImportGraph

/-- The graph of the files in a tree. -/
def ofTree (tree : FileTree) (settings : Settings) : ImportGraph where
  text? location := (tree.read location).toOption
  settings

/-- The graph that a session sees in a tree: a file that was read before keeps its text. -/
def ofSession (session : Session) (tree : FileTree) : ImportGraph where
  text? location := (session.cache.lookup location).or (tree.read location).toOption
  settings := session.settings

/-- The directives of a file. -/
def directives (graph : ImportGraph) (location : Location) : List Directive :=
  (graph.text? location).elim [] Directive.scan

/-- A directive in the text of a file leads to a location. -/
def Names (graph : ImportGraph) (importer : Location) (directive : Directive)
    (location : Location) : Prop :=
  directive ∈ graph.directives importer ∧
    graph.settings.target importer directive = .ok location

/-- The destinations of the directives of a file. -/
def destinations (graph : ImportGraph) : Destination → List Destination
  | .ok location => (graph.directives location).map (graph.settings.target location)
  | .error _ => []

/-- Can a file be read at the destination? -/
def Readable (graph : ImportGraph) : Destination → Prop
  | .ok location => ∃ text, graph.text? location = some text
  | .error _ => False

/-- A destination can be reached from another by following directives. -/
abbrev Reaches (graph : ImportGraph) : Destination → Destination → Prop :=
  Relation.ReflTransGen (LeadsTo graph.destinations)

/-- A destination builds on another, directly or through others. -/
abbrev BuildsOn (graph : ImportGraph) : Destination → Destination → Prop :=
  Relation.TransGen (LeadsTo graph.destinations)

lemma directives_eq {graph : ImportGraph} {location : Location} {text : Text}
    (found : graph.text? location = some text) :
    graph.directives location = Directive.scan text := by
  simp [directives, found]

lemma leadsTo_target {graph : ImportGraph} {importer : Location} {directive : Directive}
    {destination : Destination} (mem : directive ∈ graph.directives importer)
    (leads : graph.settings.target importer directive = destination) :
    LeadsTo graph.destinations (.ok importer) destination :=
  List.mem_map.2 ⟨directive, mem, leads⟩

end ImportGraph

/-! ## Files of a tree -/

namespace FileTree

/-- `locate` follows names downwards with `descend`.  The invariant is that the location spells the
names so far, and that the node is the one that stands there, unless no step was made. -/
lemma foldlM_descend {tree : FileTree} {names : List Text} {start final : Location × Node}
    (walked : names.foldlM tree.descend start = .ok final) :
    final.1 = ⟨start.1.components ++ names⟩ ∧
      (names = [] ∧ final = start ∨ tree.node? final.1 = some final.2) := by
  induction names generalizing start with
  | nil =>
    obtain rfl : start = final := by simpa [pure, Except.pure] using walked
    exact ⟨by simp, .inl ⟨rfl, rfl⟩⟩
  | cons name names ih =>
    rw [List.foldlM_cons, bind_eq_ok_iff] at walked
    obtain ⟨place, descended, walked⟩ := walked
    have below : place.1 = start.1.child name ∧ tree.node? place.1 = some place.2 := by
      unfold descend at descended
      split at descended
      · simp at descended
      split at descended
      · simp at descended
      split at descended
      · simp at descended
      · rename_i node found
        obtain rfl := Except.ok.inj descended
        exact ⟨rfl, found⟩
    obtain ⟨location, node⟩ := ih walked
    refine ⟨by simp [location, below.1, Location.child], .inr ?_⟩
    rcases node with ⟨-, rfl⟩ | node
    · exact below.2
    · exact node

/-- The root is in no list of nodes, which is why the node must not be a directory here. -/
lemma node?_of_locate {tree : FileTree} {location : Location} {node : Node}
    (located : tree.locate location = .ok node) (isFile : node ≠ .directory) :
    tree.node? location = some node := by
  obtain ⟨-, -, located⟩ := bind_eq_ok_iff.1 located
  obtain ⟨place, walked, kept⟩ := bind_eq_ok_iff.1 located
  obtain rfl := Except.ok.inj kept
  obtain ⟨here, stands⟩ := foldlM_descend walked
  have same : place.1 = location := by rw [here]; rfl
  rcases stands with ⟨-, rfl⟩ | stands
  · exact absurd rfl isFile
  · rwa [same] at stands

/-- `FileTree.files` is the finite list that the traversal is bounded by; nothing outside of it can
be read. -/
lemma mem_files_of_read {tree : FileTree} {location : Location} {text : Text}
    (read : tree.read location = .ok text) : location ∈ tree.files := by
  unfold FileTree.read at read
  split at read
  · simp at read
  rename_i bytes found
  obtain ⟨node, located, isFile⟩ := bind_eq_ok_iff.1 found
  cases node with
  | directory => simp at isFile
  | file content =>
    have stands := node?_of_locate located (by simp)
    unfold node? at stands
    split at stands
    · simp at stands
    · obtain ⟨before, after, split, -⟩ := List.lookup_eq_some_iff.1 stands
      exact List.mem_filterMap.2 ⟨(location, .file content), by simp [split], rfl⟩

end FileTree

/-! ## Looking files up in a catalog -/

namespace Catalog

/-- `Catalog.without` and `Session.remember` both filter by location, and neither loses the text of
a file that it keeps. -/
lemma lookup_filter (keep : Location → Bool) {location : Location} (kept : keep location = true)
    (texts : List (Location × Text)) :
    (texts.filter fun pair => keep pair.1).lookup location = texts.lookup location := by
  induction texts with
  | nil => rfl
  | cons pair texts ih =>
    obtain ⟨key, text⟩ := pair
    by_cases stays : keep key = true
    · rw [List.filter_cons_of_pos (by simpa using stays), List.lookup_cons, List.lookup_cons, ih]
    · have differs : (location == key) = false := by
        rw [beq_eq_false_iff_ne]
        rintro rfl
        exact stays kept
      rw [List.filter_cons_of_neg (by simpa using stays), ih, List.lookup_cons]
      simp only [differs]

/-- `lookup_filter` for `without`, which takes one file away. -/
lemma text?_without {texts : List (Location × Text)} {location other : Location}
    (distinct : other ≠ location) : text? (without texts location) other = text? texts other :=
  lookup_filter (· ≠ location) (by simpa using distinct) texts

/-- `Catalog.ofTree` reads every file of the list beforehand.  Looking a text up there is reading
the file, provided that every file that can be read is in the list. -/
lemma lookup_filterMap {read : Location → Option Text} {locations : List Location}
    {location : Location} (listed : (read location).isSome → location ∈ locations) :
    (locations.filterMap fun key => (read key).map fun text => (key, text)).lookup location =
      read location := by
  induction locations with
  | nil =>
    have missing : read location = none := by simpa using listed
    rw [missing]
    rfl
  | cons key locations ih =>
    by_cases same : location = key
    · subst same
      cases found : read location with
      | none => simpa [found] using ih (by simp [found])
      | some text => simp [found]
    · have listed : (read location).isSome → location ∈ locations := fun found =>
        (List.mem_cons.1 (listed found)).resolve_left same
      have differs : (location == key) = false := by simpa using same
      cases found : read key with
      | none => simpa [found] using ih listed
      | some text => simpa [found, List.lookup_cons, differs] using ih listed

theorem text?_ofTree (tree : FileTree) (location : Location) :
    text? (ofTree tree).texts location = (tree.read location).toOption := by
  refine lookup_filterMap fun found => ?_
  cases read : tree.read location with
  | error fault => simp [read, Except.toOption] at found
  | ok text => exact FileTree.mem_files_of_read read

theorem text?_overlay (catalog : Catalog) (cache : List (Location × Text)) (location : Location) :
    text? (catalog.overlay cache).texts location =
      (cache.lookup location).or (text? catalog.texts location) :=
  List.lookup_append

end Catalog

end UtilityCss
