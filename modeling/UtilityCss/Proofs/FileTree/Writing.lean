import UtilityCss.FileTree
import UtilityCss.Proofs.Outcome

/-!
# Writing a file

A file that is written stands where its path leads afterwards, and nothing else in the tree is any
different (`FileTree.Writes`).  That the path leads there again is not obvious, since it is followed
in the tree that was changed.  But following a path only ever looks at directories before its last
name, and a file is never written in the place of a directory, so the way to it stays as it was
(`FileTree.walk_of_keeps`).

A file that was opened and then could not be written is a file that was written with no bytes
(`FileTree.write_cases`).
-/

namespace UtilityCss.FileTree

variable {tree after : FileTree} {location : Location} {node : Node} {current : Location}
  {path : Text} {bytes : List UInt8}

/-- At the end of a path there is a file with the given bytes, and every other location is as it was
before. -/
def Writes (before : FileTree) (current : Location) (path : Text) (bytes : List UInt8)
    (after : FileTree) : Prop :=
  ∃ location, after.find current path = .ok (location, .file bytes) ∧
    ∀ other, other ≠ location → after.node? other = before.node? other

/-- No file can be opened for writing at the end of a path. -/
def Refuses (tree : FileTree) (current : Location) (path : Text) : Prop :=
  '\x00' ∈ path ∨ ∃ fault, tree.create current path = .error fault

/-! ## Setting a node -/

lemma lookup_set (nodes : List (Location × Node)) (location asked : Location) (node : Node) :
    (nodes.filter (·.1 ≠ location) ++ [(location, node)]).lookup asked =
      if asked = location then some node else nodes.lookup asked := by
  induction nodes with
  | nil => grind
  | cons pair nodes ih => grind

lemma node?_set (solid : location ≠ .root) (asked : Location) :
    (tree.set location node).node? asked =
      if asked = location then some node else tree.node? asked := by
  unfold node? set
  rw [lookup_set]
  by_cases top : asked = .root
  · rw [if_pos top, if_pos top, if_neg fun same => solid (same.symm.trans top)]
  · rw [if_neg top, if_neg top]

/-! ## Following a path -/

/-- The directories of a tree are directories of another one. -/
def Keeps (before after : FileTree) : Prop :=
  ∀ location, before.node? location = some .directory → after.node? location = some .directory

lemma keeps_set (node : Node) (solid : location ≠ .root)
    (free : tree.node? location ≠ some .directory) : tree.Keeps (tree.set location node) := by
  intro other stands
  have apart : other ≠ location := by
    rintro rfl
    exact free stands
  rw [node?_set solid, if_neg apart]
  exact stands

/-- A walk that has arrived at a file can only end there, which is the case of `walk_of_keeps`
without a directory. -/
lemma enter_file (component : Text) :
    tree.enter (location, .file bytes) component = .error .notDirectory := by
  simp [enter]

lemma enter_of_keeps (keeps : tree.Keeps after) {next : Location} {component : Text}
    (entered : tree.enter (location, .directory) component = .ok (next, .directory)) :
    after.enter (location, .directory) component = .ok (next, .directory) := by
  unfold enter at entered ⊢
  rw [if_neg (by simp)] at entered ⊢
  split at entered
  · rename_i stays
    rwa [if_pos stays]
  rename_i leaves
  rw [if_neg leaves]
  split at entered
  · rename_i up
    rwa [if_pos up]
  rename_i down
  rw [if_neg down]
  unfold descend at entered ⊢
  simp only at entered ⊢
  split at entered
  · simp at entered
  rename_i short
  rw [if_neg short]
  split at entered
  · simp at entered
  · rename_i found
    obtain ⟨rfl, rfl⟩ := Prod.mk.inj (Except.ok.inj entered)
    rw [keeps _ found]

/-- `FileTree.set` at a place that is no directory keeps all directories (`Keeps`), so the path to
the directory of a file still leads there when the file is in it. -/
theorem walk_of_keeps (keeps : tree.Keeps after) {start final : Location} {components : List Text}
    (walked : tree.walk start components = .ok (final, .directory)) :
    after.walk start components = .ok (final, .directory) := by
  unfold walk at walked ⊢
  induction components generalizing start with
  | nil => exact walked
  | cons component components ih =>
    rw [List.foldlM_cons] at walked ⊢
    obtain ⟨place, entered, walked⟩ := bind_eq_ok_iff.1 walked
    obtain ⟨next, node⟩ := place
    cases node with
    | directory => exact bind_eq_ok_iff.2 ⟨_, enter_of_keeps keeps entered, ih walked⟩
    | file bytes =>
      -- The path would have to end at the file, or go on beyond it.
      cases components with
      | nil => simp [pure, Except.pure] at walked
      | cons other rest => simp [List.foldlM_cons, enter_file, bind, Except.bind] at walked

/-- The last step of the walk to a new file: `enter` treats empty names and dots apart, and refuses
long ones, and `create` has excluded all of these. -/
lemma enter_name {name : Text} (plain : name ∉ [[], ['.'], ['.', '.']])
    (short : ¬ nameLimit < (Utf8.encode name).length)
    (stands : tree.node? (location.child name) = some node) :
    tree.enter (location, .directory) name = .ok (location.child name, node) := by
  simp only [List.mem_cons, List.not_mem_nil, or_false, not_or] at plain
  simp [enter, descend, plain, short, stands]

/-- What `create` has checked by the time it opens a file.  It reads `path.splitOn '/'` from its
end, while `walk` reads it from its start; the equation for `splitOn` joins the two. -/
lemma create_eq_ok (created : tree.create current path = .ok (location, after)) :
    ∃ components name directory, path.splitOn '/' = components ++ [name] ∧
      checkPath path = .ok () ∧
      tree.walk (startOf current path) components = .ok (directory, .directory) ∧
      name ∉ [[], ['.'], ['.', '.']] ∧ ¬ nameLimit < (Utf8.encode name).length ∧
      tree.node? (directory.child name) ≠ some .directory ∧
      location = directory.child name ∧ after = tree.set location (.file []) := by
  obtain ⟨_, checked, created⟩ := bind_eq_ok_iff.1 created
  obtain ⟨⟨directory, node⟩, walked, created⟩ := bind_eq_ok_iff.1 created
  have nonempty : path.splitOn '/' ≠ [] := List.splitOnP_ne_nil _ _
  rw [List.getLast?_eq_some_getLast nonempty, Option.getD_some] at created
  simp only at created
  split at created
  · simp at created
  split at created
  · simp at created
  split at created
  · simp at created
  split at created
  · simp at created
  rename_i isDirectory plain short free
  obtain rfl : node = .directory := by simpa using isDirectory
  obtain ⟨rfl, rfl⟩ := Prod.mk.inj (Except.ok.inj created)
  exact ⟨_, _, directory, (List.dropLast_concat_getLast nonempty).symm, checked, walked, plain,
    short, free, rfl, rfl⟩

lemma set_set (first second : Node) :
    (tree.set location first).set location second = tree.set location second := by
  simp [set, List.filter_append]

/-- `create` leaves an empty file, and `write` sets its bytes in a second step.  For both, with
their own bytes, the path leads to the file (`enter_name`, `walk_of_keeps`) and nothing else
changes. -/
lemma writes_of_create (created : tree.create current path = .ok (location, after))
    (bytes : List UInt8) : tree.Writes current path bytes (after.set location (.file bytes)) := by
  obtain ⟨components, name, directory, parts, checked, walked, plain, short, free, rfl, rfl⟩ :=
    create_eq_ok created
  rw [set_set]
  have solid : directory.child name ≠ .root := by simp [Location.child, Location.root]
  have stands : (tree.set (directory.child name) (.file bytes)).node? (directory.child name) =
      some (.file bytes) := by
    rw [node?_set solid, if_pos rfl]
  have way := walk_of_keeps (keeps_set (.file bytes) solid free) walked
  refine ⟨directory.child name, bind_eq_ok_iff.2 ⟨_, checked, ?_⟩, fun other apart => ?_⟩
  · unfold walk at way ⊢
    rw [parts, List.foldlM_append, way]
    simp only [List.foldlM_cons, List.foldlM_nil]
    exact bind_eq_ok_iff.2 ⟨_, rfl, bind_eq_ok_iff.2 ⟨_, enter_name plain short stands, rfl⟩⟩
  · rw [node?_set solid, if_neg apart]

/-- `write` opens its file before it encodes the text.  So there are three cases and not two: a text
is refused before its file is opened, or it cannot be encoded and leaves the file empty, or the file
holds it. -/
theorem write_cases (tree : FileTree) (stray : Char → Bool) (current : Location)
    (path text : Text) :
    (tree.Refuses current path ∧ ∃ fault,
      tree.write stray current path text = (.error fault, tree)) ∨
    (text.any stray = true ∧ ∃ after,
      tree.write stray current path text = (.error (.encoding {}), after) ∧
      tree.Writes current path [] after) ∨
    (text.any stray = false ∧ ∃ after,
      tree.write stray current path text = (.ok (), after) ∧
      tree.Writes current path (Utf8.encode text) after) := by
  unfold write Utf8.encodeExcept
  split
  · rename_i null
    exact .inl ⟨.inl null, _, rfl⟩
  split
  · rename_i fault failed
    exact .inl ⟨.inr ⟨fault, failed⟩, _, rfl⟩
  rename_i location opened created
  cases spoilt : text.any stray with
  | true =>
    have emptied : opened.set location (.file []) = opened := by
      obtain ⟨_, _, _, -, -, -, -, -, -, -, rfl⟩ := create_eq_ok created
      exact set_set _ _
    exact .inr (.inl ⟨rfl, opened, rfl, emptied ▸ writes_of_create created []⟩)
  | false => exact .inr (.inr ⟨rfl, _, rfl, writes_of_create created (Utf8.encode text)⟩)

end UtilityCss.FileTree
