import UtilityCss.FileTree
import UtilityCss.Import.Directive

/-!
# Bundling imported files

`Bundle.resolve` puts a file and everything it builds on into one text.  It follows the directives
of each file in order, before the file itself is written, so that every file comes after those that
it builds on.  A file that was written already is not written again, and a file that is met while
its own directives are being followed is a cycle.

Files come from a `Catalog`.  The files that are being followed are taken out of what is available
(`Catalog.without`), which is why the traversal ends: a file is only entered while it is available.

All that the traversal knows is its `Progress`.  What it compares a file with are the two marks
there, `Progress.resolving` and `Progress.expanded`; the text of a file is put together from the
texts of what it builds on as soon as the file is left (`Progress.write`).  A traversal that fails
leaves its progress as it stands, with the files that it had not left yet still marked.

A `Session` bundles one file after the other and keeps the marks in between.  Whatever an earlier
call left there, `Session.resolve` clears them before it follows anything.
-/

namespace UtilityCss

/-! ## Catalogs -/

/-- The texts of the files that can be read, and why any other file cannot. -/
structure Catalog where
  texts : List (Location × Text)
  fault : Location → ReadFault

namespace Catalog

/-- The text of a file. -/
def text? (texts : List (Location × Text)) (location : Location) : Option Text :=
  texts.lookup location

/-- The texts but for those of one file. -/
def without (texts : List (Location × Text)) (location : Location) : List (Location × Text) :=
  texts.filter (·.1 ≠ location)

theorem length_without_lt {texts : List (Location × Text)} {location : Location} {text : Text}
    (h : text? texts location = some text) : (without texts location).length < texts.length := by
  rw [without, List.length_filter_lt_length_iff_exists]
  obtain ⟨before, after, split, _⟩ := List.lookup_eq_some_iff.1 h
  exact ⟨(location, text), by simp [split], by simp⟩

/-- The catalog of the files in a tree. -/
def ofTree (tree : FileTree) : Catalog where
  texts := tree.files.filterMap fun location =>
    (tree.read location).toOption.map fun text => (location, text)
  fault location :=
    match tree.read location with
    | .error fault => fault
    | .ok _ => .access .notFound

/-- The catalog in which some files keep the texts that were read before. -/
def overlay (catalog : Catalog) (cache : List (Location × Text)) : Catalog :=
  { catalog with texts := cache ++ catalog.texts }

end Catalog

/-! ## Following directives -/

/-- Where imported files are found. -/
structure Settings where
  /-- The directory that paths start from. -/
  current : Location
  /-- The directory of templates. -/
  templates : Path
  /-- The suffix that a path without one is given. -/
  extension : Text
deriving DecidableEq, Repr

/-- The location that a directive in a file names. -/
def Settings.target (settings : Settings) (importer : Location) (directive : Directive) :
    Except NullInPath Location :=
  let path := Path.parse directive.path
  let path :=
    if path.suffix = [] then Path.parse (directive.path ++ settings.extension) else path
  match directive.kind with
  | .sibling => importer.parent.resolve path
  | .template => settings.current.resolve (settings.templates.join path)

/-- Why a file is wanted. -/
inductive Origin
  | entry
  | directive (kind : DirectiveKind)
deriving DecidableEq, Repr

/-- Why files cannot be bundled. -/
inductive ImportFault
  /-- A file cannot be read. -/
  | load (origin : Origin) (location : Location) (reason : ReadFault)
  /-- A file builds on itself, along the given files. -/
  | cycle (location : Location) (chain : List Location)
  /-- A path cannot be followed. -/
  | path (fault : NullInPath)
deriving DecidableEq, Repr

/-- The name of an origin in messages. -/
def Origin.name : Origin → Text
  | .entry => "entry"
  | .directive .sibling => "import"
  | .directive .template => "template"

/-- The wording of a fault. -/
def ImportFault.message : ImportFault → Text
  | .load origin location reason =>
    "Failed to load " ++ origin.name ++ " at " ++ location.toText ++ ": " ++ reason.message
  | .cycle location _ => "Circular import detected: " ++ location.toText
  | .path fault => fault.message

/-- What a file contributes: its own text between the markers of its layer. -/
structure Block where
  location : Location
  layer : Text
  body : Text
deriving DecidableEq, Repr

/-- The line that marks an edge of the layer. -/
def Block.marker (block : Block) (edge : Text) : Text := Text.join " " ["LAYER", block.layer, edge]

/-- The text of a block: its body between the two markers, and a line end. -/
def Block.render (block : Block) : Text :=
  Text.join "\n" [block.marker "START", block.body, block.marker "END", []]

/-- A step of the traversal. -/
inductive Visit
  /-- A file was read and its directives are followed. -/
  | entered (location : Location) (text : Text)
  /-- A file was met that is written already. -/
  | skipped (location : Location)
deriving DecidableEq, Repr

/-- The file that a step entered, with its text. -/
def Visit.entered? : Visit → Option (Location × Text)
  | .entered location text => some (location, text)
  | .skipped _ => none

/-- How far a traversal has come. -/
structure Progress where
  /-- The steps so far, the last one first. -/
  trail : List Visit
  /-- The blocks written so far, the last one first. -/
  blocks : List Block
  /-- The files whose directives are being followed, the innermost first. -/
  resolving : List Location
  /-- The files that are written already, the last one first. -/
  expanded : List Location
  /-- The texts gathered for the innermost of the files that are being followed, the last one
  first. -/
  parts : List Text
deriving DecidableEq, Repr

namespace Progress

/-- Nothing has been done, with the given files marked. -/
def fresh (resolving expanded : List Location) : Progress := ⟨[], [], resolving, expanded, []⟩

/-- Nothing has been done. -/
def start : Progress := fresh [] []

/-- After a file was read, whose directives are followed next. -/
def enter (progress : Progress) (location : Location) (text : Text) : Progress :=
  { progress with
    trail := .entered location text :: progress.trail
    resolving := location :: progress.resolving
    parts := [] }

/-- After a file was met that is written already. -/
def skip (progress : Progress) (location : Location) : Progress :=
  { progress with trail := .skipped location :: progress.trail }

/-- After a file was written and left.  Its text comes after the texts of what it builds on, and
all of them together are one more part of the file outside, which had gathered the given parts. -/
def write (progress : Progress) (outside : List Text) (location : Location) (layer text : Text) :
    Progress :=
  let block : Block := ⟨location, layer, Directive.strip text⟩
  { progress with
    blocks := block :: progress.blocks
    resolving := progress.resolving.tail
    expanded := location :: progress.expanded
    parts := Text.join "\n" (progress.parts.reverse ++ [block.render]) :: outside }

/-- The steps in order. -/
def visits (progress : Progress) : List Visit := progress.trail.reverse

end Progress

/-- A traversal that failed: why, and how far it had come. -/
structure Failure where
  fault : ImportFault
  progress : Progress
deriving DecidableEq, Repr

namespace Bundle

/-- Follows the directives of `importer`, the innermost of the files that are being followed.
`available` holds the other files that can be read. -/
def expand (settings : Settings) (fault : Location → ReadFault)
    (available : List (Location × Text)) (importer : Location) :
    List Directive → Progress → Except Failure Progress
  | [], progress => .ok progress
  | directive :: directives, progress =>
    match settings.target importer directive with
    | .error null => .error ⟨.path null, progress⟩
    | .ok location =>
      if location ∈ progress.resolving then
        .error ⟨.cycle location progress.resolving.reverse, progress⟩
      else if location ∈ progress.expanded then
        expand settings fault available importer directives (progress.skip location)
      else
        match _found : Catalog.text? available location with
        | none =>
          .error ⟨.load (.directive directive.kind) location (fault location), progress⟩
        | some text =>
          match
            expand settings fault (Catalog.without available location) location
              (Directive.scan text) (progress.enter location text) with
          | .error failure => .error failure
          | .ok inside =>
            expand settings fault available importer directives
              (inside.write progress.parts location (layerName location.stem) text)
termination_by directives => (available.length, directives.length)
decreasing_by
  · exact Prod.Lex.right _ (by simp)
  · exact Prod.Lex.left _ _ (Catalog.length_without_lt _found)
  · exact Prod.Lex.right _ (by simp)

/-- Bundles the file at a location with everything that it builds on, from the given progress on.
Its own layer has the given name or, if that is absent or empty, the name of the file. -/
def follow (catalog : Catalog) (settings : Settings) (entry : Location) (layer : Option Text)
    (progress : Progress) : Except Failure Progress :=
  match Catalog.text? catalog.texts entry with
  | none => .error ⟨.load .entry entry (catalog.fault entry), progress⟩
  | some text => do
    let inside ← expand settings catalog.fault (Catalog.without catalog.texts entry) entry
      (Directive.scan text) (progress.enter entry text)
    .ok (inside.write progress.parts entry
      ((layer.filter (· ≠ [])).getD (layerName entry.stem)) text)

/-- Bundles the file at the end of a path with everything that it builds on. -/
def resolve (catalog : Catalog) (settings : Settings) (entry : Path) (layer : Option Text) :
    Except Failure Progress :=
  match settings.current.resolve entry with
  | .error null => .error ⟨.path null, .start⟩
  | .ok entry => follow catalog settings entry layer .start

end Bundle

/-- The text of a bundle and the files that went into it. -/
structure Bundle where
  text : Text
  files : List Location
deriving DecidableEq, Repr

namespace Bundle

/-- The bundle of a finished traversal: the text that was gathered, and the files in the order in
which they were entered. -/
def ofProgress (progress : Progress) : Bundle where
  text := Text.join "\n" progress.parts.reverse
  files := progress.visits.filterMap fun visit => visit.entered?.map Prod.fst

end Bundle

/-! ## Sessions -/

/-- Repeated bundling in a changing tree.  What was read once keeps its text. -/
structure Session where
  settings : Settings
  cache : List (Location × Text)
  /-- The files that the last call was following when it stopped, the innermost first. -/
  resolving : List Location
  /-- The files that the last call had written when it stopped, the last one first. -/
  expanded : List Location
deriving DecidableEq, Repr

namespace Session

/-- A session in which nothing was read yet. -/
def start (settings : Settings) : Session := ⟨settings, [], [], []⟩

/-- The session with no file marked. -/
def reset (session : Session) : Session := { session with resolving := [], expanded := [] }

/-- The session after a traversal: it remembers the files that were read, and keeps the marks as
the traversal left them. -/
def remember (session : Session) (progress : Progress) : Session :=
  let read := progress.visits.filterMap Visit.entered?
  { session with
    cache := session.cache ++
      read.filter fun (location, _) => (session.cache.lookup location).isNone
    resolving := progress.resolving
    expanded := progress.expanded }

/-- Bundles a file of the tree as it is now.  A path that leads nowhere is refused before the marks
are cleared. -/
def resolve (session : Session) (tree : FileTree) (entry : Path) (layer : Option Text) :
    Except Failure Progress × Session :=
  match session.settings.current.resolve entry with
  | .error null => (.error ⟨.path null, .start⟩, session)
  | .ok entry =>
    let session := session.reset
    let catalog := (Catalog.ofTree tree).overlay session.cache
    match
      Bundle.follow catalog session.settings entry layer
        (.fresh session.resolving session.expanded) with
    | .error failure => (.error failure, session.remember failure.progress)
    | .ok progress => (.ok progress, session.remember progress)

end Session

end UtilityCss
