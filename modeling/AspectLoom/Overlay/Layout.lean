import AspectLoom.Program.LoadError
/-!
An overlay: a second root under which the files of a source tree appear, some written anew, the
others as links. A file keeps its path relative to the root.
-/
namespace AspectLoom

structure Overlay where
  sourceRoot : Path
  root : Path
deriving Repr, Inhabited

inductive OverlayError where
  | file (path : Path) (cause : FileError)
  | outsideRoot (path root : Path)
  /-- The advice unit cannot be read as a file of a package. -/
  | adviceUnit (cause : LoadError)
deriving Repr

namespace OverlayError

def message : OverlayError → String
  | file path cause => "io error on " ++ path.text ++ ": " ++ cause.message
  | outsideRoot path root => path.text ++ " is not under the source root " ++ root.text
  | adviceUnit cause => "advice unit: " ++ cause.message

end OverlayError

namespace Overlay

/-- The path of a source file relative to the source root. -/
def relative (overlay : Overlay) (file : Path) : Except OverlayError Path :=
  match overlay.sourceRoot.relativeTo? file with
  | some path => .ok path
  | none => .error (.outsideRoot file overlay.sourceRoot)

def ofRelative (overlay : Overlay) (relative : Path) : Path := overlay.root.join relative

def sourceOf (overlay : Overlay) (relative : Path) : Path := overlay.sourceRoot.join relative

/-- Where a source file appears in the overlay. -/
def counterpart (overlay : Overlay) (file : Path) : Except OverlayError Path :=
  (overlay.relative file).map overlay.ofRelative

end Overlay
end AspectLoom
