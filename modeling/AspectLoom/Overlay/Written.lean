import AspectLoom.FileTree.Change
import AspectLoom.Overlay.Layout
/-!
Writing files into an overlay. A path is written once in a run. Whatever links stand on the way are
replaced first, so that nothing is written through them into the source tree.
-/
namespace AspectLoom

/-- The relative paths that a run has written, in the order of writing. -/
structure Written where
  paths : List Path := []
deriving Repr, Inhabited

namespace Written

def contains (written : Written) (path : Path) : Bool := written.paths.contains path

/-- Whether some written path lies strictly below a directory. -/
def reaches (written : Written) (dir : Path) : Bool :=
  written.paths.any fun path => path != dir && dir.isAbove path

def sorted (written : Written) : List Path :=
  sortBy (fun left right => !right.before left) written.paths

def depth (written : Written) : Nat :=
  (written.paths.map fun path => path.components.length).foldl max 0

end Written

namespace Overlay

def fileStep {α : Type} (path : Path) (action : TreeM FileError α) : TreeM OverlayError α :=
  TreeM.mapError (OverlayError.file path) action

/-- What stands at a path, if anything does. -/
def look (path : Path) : TreeM OverlayError (Option Entry) := fileStep path do
  match (← get).entryOf path with
  | .ok entry => pure (some entry)
  | .error .notFound => pure none
  | .error cause => throw cause

def makeDirectory (path : Path) : TreeM OverlayError Unit :=
  fileStep path (TreeM.apply fun tree => tree.makeDirectory path)

def removeFile (path : Path) : TreeM OverlayError Unit :=
  fileStep path (TreeM.apply fun tree => tree.removeFile path)

/-- Makes one step of the way a directory of its own. -/
def ownDirectory (path : Path) : TreeM OverlayError Unit := do
  match ← look path with
  | some (.link _) =>
    removeFile path
    makeDirectory path
  | some .directory => pure ()
  | some (.file _) => throw (.file path .blockedByFile)
  | none => makeDirectory path

def ownDirectoriesFrom (path : Path) : List Component → TreeM OverlayError Unit
  | [] => pure ()
  | component :: rest => do
    let next := path.join ⟨component.text⟩
    ownDirectory next
    ownDirectoriesFrom next rest

/-- Makes every step from the overlay's root down to a directory a directory of its own. -/
def ownDirectories (overlay : Overlay) (dir : Path) : TreeM OverlayError Unit := do
  fileStep overlay.root (TreeM.makeDirectories overlay.root)
  match overlay.root.relativeTo? dir with
  | none => fileStep dir (TreeM.makeDirectories dir)
  | some relative => ownDirectoriesFrom overlay.root relative.components

def replaceFile (path : Path) (text : String) : TreeM OverlayError Unit := do
  match ← look path with
  | some (.link _) => removeFile path
  | _ => pure ()
  fileStep path (TreeM.apply fun tree => tree.writeFile path text.toUTF8)

/-- Writes a file and gives its path in the overlay, unless this run has written it before. -/
def write (overlay : Overlay) (relative : Path) (text : String) :
    StateT Written (TreeM OverlayError) (Option Path) := do
  if (← get).contains relative then return none
  let destination := overlay.ofRelative relative
  match destination.parent? with
  | some parent => overlay.ownDirectories parent
  | none => pure ()
  replaceFile destination text
  modify fun written => ⟨written.paths ++ [relative]⟩
  return some destination

end Overlay
end AspectLoom
