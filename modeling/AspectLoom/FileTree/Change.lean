import AspectLoom.Assoc
import AspectLoom.FileTree.Basic
/-!
Changes of a file tree. An operation that fails half-way keeps what it has already done, so changes
are steps of a state machine whose failures do not undo the state.
-/
namespace AspectLoom

/-- A computation that changes a file tree and can fail. -/
abbrev TreeM (ε : Type) := ExceptT ε (StateM FileTree)

namespace FileTree

/-- Puts an entry at a place, in the stead of one that stands there. -/
def put (tree : FileTree) (place : Place) (entry : Entry) : FileTree :=
  { tree with entries := Assoc.insert place entry tree.entries }

/-- Takes away a place and everything below it. -/
def prune (tree : FileTree) (place : Place) : FileTree :=
  { tree with entries := tree.entries.filter fun (below, _) => !place.isPrefixOf below }

/-- The place of a path where something new can stand. -/
def freePlace (tree : FileTree) (text : String) : Except FileError Place := do
  let place ← tree.place false ⟨text⟩
  if (tree.entryAt? place).isSome then .error .alreadyExists else .ok place

def withoutSlashes (text : String) : String :=
  String.ofList (text.toList.reverse.dropWhile (· = '/')).reverse

def makeDirectory (tree : FileTree) (path : Path) : Except FileError FileTree := do
  -- A slash behind the name changes nothing here.
  let name := withoutSlashes path.text
  let place ← tree.freePlace (if name = "" then path.text else name)
  .ok (tree.put place .directory)

def makeLink (tree : FileTree) (target : String) (path : Path) : Except FileError FileTree := do
  if target.toList.contains '\x00' then .error .zeroInPath
  if target = "" then .error .notFound
  let place ← tree.freePlace path.text
  if path.text.endsWith "/" then .error .notFound
  .ok (tree.put place (.link target))

/-- Writes a file, behind a link where the path names one. -/
def writeFile (tree : FileTree) (path : Path) (bytes : ByteArray) :
    Except FileError FileTree := do
  if path.text.endsWith "/" then
    let _ ← tree.place true ⟨withoutSlashes path.text⟩
    .error .isDirectory
  let place ← tree.place true path
  match tree.entryAt? place with
  | some .directory => .error .isDirectory
  | _ => .ok (tree.put place (.file bytes))

/-- Takes away a file or link. -/
def removeFile (tree : FileTree) (path : Path) : Except FileError FileTree := do
  let place ← tree.place false path
  match tree.entryAt? place with
  | none => .error .notFound
  | some .directory => .error .isDirectory
  | some _ => .ok (tree.prune place)

end FileTree

namespace TreeM

/-- Runs one change, and keeps the tree as it is where the change fails. -/
def apply (change : FileTree → Except FileError FileTree) : TreeM FileError Unit := do
  match change (← get) with
  | .ok tree => set tree
  | .error cause => throw cause

def ask {α : Type} (question : FileTree → Except FileError α) : TreeM FileError α := do
  match question (← get) with
  | .ok value => pure value
  | .error cause => throw cause

/-- Rewords the failure of a computation. -/
def mapError {ε ε' α : Type} (reword : ε → ε') (action : TreeM ε α) : TreeM ε' α :=
  ExceptT.adapt reword action

/-- Makes one directory unless there is one; the flag says whether its parent is missing. -/
def makeOrFind (path : Path) : TreeM FileError Bool := do
  match (← get).makeDirectory path with
  | .ok tree =>
    set tree
    pure false
  | .error .notFound => pure true
  | .error cause => if (← get).isDirectory path then pure false else throw cause

/-- Makes the directories that are missing on the way to a path; `depth` bounds their number. -/
def makeDirectoriesUpTo : Nat → Path → TreeM FileError Unit
  | 0, _ => throw .notFound
  | depth + 1, path => do
    if path.components.isEmpty then return
    if ← makeOrFind path then
      match path.parent? with
      | none => throw .notFound
      | some parent =>
        makeDirectoriesUpTo depth parent
        if ← makeOrFind path then throw .notFound

/-- Makes a directory and those above it. Links to directories count as directories. -/
def makeDirectories (path : Path) : TreeM FileError Unit :=
  makeDirectoriesUpTo (path.components.length + 1) path

end TreeM
end AspectLoom
