import AspectLoom.Overlay.Layout
import AspectLoom.Program.Unit
/-!
The advice unit: the file that declares the advice types, moved into a package of its own.
-/
namespace AspectLoom.Overlay

/-- A source text with its package clause replaced. -/
def renamePackage (unit : CompilationUnit) (package : String) : String :=
  unit.text ⟨0, unit.packageClause.start⟩ ++ "package " ++ package ++
    unit.text ⟨unit.packageClause.stop, unit.source.utf8ByteSize⟩

/-- The text of an advice unit as a file of the given package. -/
def adviceText (tree : FileTree) (path : Path) (package : String) : Except OverlayError String :=
  match tree.readText path with
  | .error cause => .error (.file path cause)
  | .ok source =>
    let fileName : Path := ⟨(path.fileName?).getD ""⟩
    match CompilationUnit.parse 0 path fileName "" source true with
    | .error cause => .error (.adviceUnit cause)
    | .ok (unit, _) => .ok (renamePackage unit package)

end AspectLoom.Overlay
