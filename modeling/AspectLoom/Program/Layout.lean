import AspectLoom.Path
import AspectLoom.Text.Span
/-!
How import paths map to directories of a source tree. In a module the root directory has the
module's path and its subdirectories extend it; without one an import path is a directory.
-/
namespace AspectLoom

structure Layout where
  root : Path
  modulePath : Option String
deriving Repr, Inhabited

namespace Layout

/-- The directory of an import path relative to the root, if it lies in the tree. -/
def relativeDir? (layout : Layout) (importPath : String) : Option Path :=
  match layout.modulePath with
  | none => some ⟨importPath⟩
  | some modulePath =>
    if importPath = modulePath then some ⟨""⟩
    else (Text.stripStart? (modulePath ++ "/") importPath).map Path.mk

/-- The import path of a directory relative to the root; `.` components do not count. -/
def importPathOf (layout : Layout) (dir : Path) : String :=
  let relative := "/".intercalate ((dir.components.map Component.text).filter (· ≠ "."))
  match layout.modulePath with
  | some modulePath => if relative = "" then modulePath else modulePath ++ "/" ++ relative
  | none => if relative = "" then "." else relative

/-- The import path of a package directly below the root. -/
def importPathFor (layout : Layout) (name : String) : String :=
  match layout.modulePath with
  | some modulePath => modulePath ++ "/" ++ name
  | none => name

end Layout
end AspectLoom
