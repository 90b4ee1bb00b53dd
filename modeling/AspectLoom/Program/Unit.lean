import AspectLoom.Program.Import
import AspectLoom.Program.LoadError
import AspectLoom.Syntax.Grammar.File
/-!
Compilation units: the source files of a package.
-/
namespace AspectLoom

open Syntax (Node)

structure CompilationUnit where
  id : UnitId
  path : Path
  relativePath : Path
  packageName : String
  packagePath : String
  source : String
  imports : List Import
  packageClause : Span
  /-- Whether the unit declares advice; such a unit is not woven. -/
  isAspect : Bool
deriving Repr, Inhabited

namespace CompilationUnit

def text (unit : CompilationUnit) (span : Span) : String := Text.slice unit.source span

/-- The import that gives access to a package. -/
def importOf? (unit : CompilationUnit) (path : String) : Option Import :=
  unit.imports.find? fun spec => spec.path == path && !spec.isBlank

def location (unit : CompilationUnit) (offset : Nat) : Location :=
  let (line, column) := Text.position unit.source offset
  ⟨unit.path, line, column⟩

end CompilationUnit

namespace Syntax.Node

/-- The name in the first package clause of a file. -/
def packageName? (source : String) (root : Node) : Option String := do
  let name ← (← root.firstOfKind? .packageClause).firstOfKind? .packageIdentifier
  return name.text source

def isTextQuote (c : Char) : Bool := c == '"' || c == '\x60'

def importOf? (source : String) (spec : Node) : Option Import := do
  let path ← spec.child? .path
  return ⟨(spec.child? .name).map (text source), Text.trimBoth isTextQuote (path.text source)⟩

/-- The specifications in an import declaration, in order. -/
def importSpecs (declaration : Node) : List Node :=
  declaration.namedChildren.flatMap fun child =>
    match child.kind with
    | .importSpec => [child]
    | .importSpecList => child.namedChildren.filter fun spec => spec.kind == .importSpec
    | _ => []

/-- The imports of a file in order. -/
def imports (source : String) (root : Node) : List Import :=
  (root.namedChildren.filter fun child => child.kind == .importDeclaration).flatMap
    fun declaration => declaration.importSpecs.filterMap (importOf? source)

end Syntax.Node

namespace CompilationUnit

/-- A unit with its syntax tree, from a source text. -/
def parse (id : UnitId) (path relativePath : Path) (packagePath source : String)
    (isAspect : Bool) : Except LoadError (CompilationUnit × Node) :=
  match Node.ofSource? source with
  | none => .error (.badSyntax path)
  | some root =>
    match root.packageName? source with
    | none => .error (.missingPackageClause path)
    | some name =>
      let clause := ((root.firstOfKind? .packageClause).map Node.span).getD ⟨0, 0⟩
      .ok (⟨id, path, relativePath, name, packagePath, source, root.imports source, clause,
        isAspect⟩, root)

end CompilationUnit
end AspectLoom
