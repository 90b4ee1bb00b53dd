import AspectLoom.CommandLine.Reply
/-!
The program. It reads the directories that a run can see into a file tree, runs the command on the
tree and carries the changes out. Where the tree gains a symbolic link, what the link shows is
copied, because links cannot be made here.
-/
namespace AspectLoom.Main

/-! Reading -/

/-- An entry of a directory and everything below it. Links are noted by where they lead. -/
partial def readEntry (place : Place) (entry : IO.FS.DirEntry) : IO (List (Place × Entry)) := do
  let place := place ++ [entry.fileName]
  match (← entry.path.symlinkMetadata).type with
  | .symlink => return [(place, .link (← IO.FS.realPath entry.path).toString)]
  | .file => return [(place, .file (← IO.FS.readBinFile entry.path))]
  | .dir =>
    let below ← (← entry.path.readDir).toList.mapM (readEntry place)
    return (place, .directory) :: below.flatten
  | .other => return []

def placeOf (path : Path) : Place := FileTree.steps path.text

/-- The directories on the way to a place. -/
def directoriesTo (place : Place) : List (Place × Entry) :=
  (List.range place.length).map fun count => (place.take (count + 1), .directory)

def enter (tree : FileTree) (entries : List (Place × Entry)) : FileTree :=
  entries.foldl (fun tree (place, entry) => tree.put place entry) tree

/-- Reads a directory with everything below it into the tree. -/
def readDirectory (tree : FileTree) (path : Path) : IO FileTree := do
  let dir ← IO.FS.realPath path.text
  let place := placeOf ⟨dir.toString⟩
  let below ← (← dir.readDir).toList.mapM (readEntry place)
  return enter tree (directoriesTo place ++ below.flatten)

/-- Reads the directory that a path names or in which its file lies; a missing path has none. -/
def readAround (tree : FileTree) (path : Path) : IO FileTree := do
  let named ← IO.FS.realPath path.text
  if ← named.isDir then readDirectory tree path
  else if ← named.pathExists then
    readDirectory tree (((Path.mk named.toString).parent?).getD ⟨"/"⟩)
  else return tree

/-! Writing -/

def isSame : Entry → Entry → Bool
  | .file left, .file right => left == right
  | .directory, .directory => true
  | .link left, .link right => left == right
  | _, _ => false

/-- Whether a tree has just this entry at a place. -/
def holds (tree : FileTree) (place : Place) (entry : Entry) : Bool :=
  (tree.entryAt? place).any (isSame entry)

/-- Copies what a place shows in the tree, links followed. -/
partial def copyInto (tree : FileTree) (path : Path) (source : Path) : IO Unit := do
  match tree.target source with
  | .ok (.file bytes) => IO.FS.writeBinFile path.text bytes
  | .ok .directory =>
    IO.FS.createDirAll path.text
    for name in (tree.list source).toOption.getD [] do
      copyInto tree (path.join ⟨name⟩) (source.join ⟨name⟩)
  | _ => return

def create (tree : FileTree) (place : Place) (entry : Entry) : IO Unit := do
  let path := FileTree.pathOf place
  match entry with
  | .file bytes => IO.FS.writeBinFile path.text bytes
  | .directory => IO.FS.createDirAll path.text
  | .link target => copyInto tree path ⟨target⟩

/-- Carries out what has changed between two trees: first what is gone, then what is new. -/
def carryOut (before after : FileTree) : IO Unit := do
  for (place, entry) in before.entries do
    if !holds after place entry && !isSame entry .directory then
      IO.FS.removeFile (FileTree.pathOf place).text
  for (place, entry) in after.entries do
    if !holds before place entry then create after place entry

def run (texts : List String) : IO UInt32 := do
  let environmentRoot ← IO.getEnv "WEAVE_SOURCE_ROOT"
  let workDir := (← IO.currentDir).toString
  let empty : FileTree := { workDir := placeOf ⟨workDir⟩ }
  let tree ← readDirectory empty ⟨workDir⟩
  -- The settings that a file holds can name more paths than the arguments do.
  let tree ← (Command.paths environmentRoot texts tree).foldlM readAround tree
  let tree ← (Command.paths environmentRoot texts tree).foldlM readAround tree
  let (reply, changed) := Command.run environmentRoot texts tree
  carryOut tree changed
  for line in reply.errors do IO.eprintln line
  for line in reply.output do IO.println line
  return reply.exitCode.toUInt32

end AspectLoom.Main

def main (args : List String) : IO UInt32 := AspectLoom.Main.run args
