import UtilityCss.Command.Run

/-!
# The command line

`main` runs `Command.run` on the part of the file system that the run looks at.  That part is found
by running: the paths among the arguments are looked up first, and as long as the run stops because
a file could not be loaded that was not looked up yet, it is looked up and the run is made again.
-/

namespace UtilityCss.Disk

/-- What stands at a location. -/
def node? (location : Location) : IO (Option Node) := do
  let name := String.ofList location.toText
  try
    if ← (← IO.FS.realPath name).isDir then return some .directory
    else return some (.file (← IO.FS.readBinFile name).toList)
  catch _ => return none

/-- The tree with a location and those that it stands in, as far as they exist. -/
def load (tree : FileTree) (location : Location) : IO FileTree :=
  (FileTree.ancestors location).foldlM (fun tree place => do
    if (tree.node? place).isSome then return tree
    match ← node? place with
    | none => return tree
    | some node => return tree.set place node) tree

/-- The tree with every place that a path leads through. -/
def loadPath (current : Location) (tree : FileTree) (path : Path) : IO FileTree :=
  (List.range (path.components.length + 1)).foldlM (fun tree count =>
    load tree (current.join { path with components := path.components.take count })) tree

/-- The paths that an argument may stand for: its own, that of its value, and that of the style
sheet for it. -/
def pathsOf (argument : Text) : List Path :=
  [Path.parse argument, Path.parse ((Grammar.splitValue argument).2.getD []),
    (Path.parse argument).withSuffix ".css"]

/-- Runs a command line, looking up the files that it cannot load until there are no new ones. -/
partial def run (tree : FileTree) (current : Location) (arguments : List Text)
    (tried : List Location) : IO (FileTree × Outcome) := do
  let outcome := Command.run tree current arguments
  match outcome.missing with
  | none => return (tree, outcome)
  | some location =>
    if location ∈ tried then return (tree, outcome)
    else run (← load tree location) current arguments (location :: tried)

/-- Milliseconds as seconds with three decimals. -/
def seconds (milliseconds : Nat) : Text :=
  Text.ofNat (milliseconds / 1000) ++ "." ++
    (Text.ofNat (milliseconds % 1000)).leftpad 3 '0'

end UtilityCss.Disk

open UtilityCss in
/-- Runs the command line. -/
def main (arguments : List String) : IO UInt32 := do
  let started ← IO.monoMsNow
  let current := Location.root.join (Path.parse (toString (← IO.currentDir)).toList)
  let arguments := arguments.map String.toList
  let tree ← (arguments.flatMap Disk.pathsOf).foldlM (Disk.loadPath current) .empty
  let (tree, outcome) ← Disk.run tree current arguments []
  for (location, bytes) in tree.changes outcome.tree do
    IO.FS.writeBinFile (String.ofList location.toText) ⟨bytes.toArray⟩
  let (output, error) := (← IO.getStdout, ← IO.getStderr)
  error.putStr (String.ofList (outcome.standardError (← error.isTty)))
  if let some abort := outcome.abort then error.putStrLn (String.ofList abort.message)
  let seconds := Disk.seconds ((← IO.monoMsNow) - started)
  output.putStr (String.ofList (outcome.standardOutput (← output.isTty) seconds))
  return outcome.exitCode.toUInt32
