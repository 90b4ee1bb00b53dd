import AspectLoom.Program.ModuleFile
import AspectLoom.Program.References
/-!
The package that is to be woven: its units, the references in them, and what they refer to.
-/
namespace AspectLoom

open Syntax (Node)

structure TargetPackage where
  layout : Layout
  /-- The import path. -/
  path : String
  units : List CompilationUnit
  symbols : SymbolTable
  /-- The names of the packages of the source tree that were indexed, by import path. -/
  packageNames : List (String × String)
deriving Inhabited

namespace TargetPackage

def unit? (package : TargetPackage) (id : UnitId) : Option CompilationUnit := package.units[id]?

/-- The units that are woven, which are those that declare no advice. -/
def wovenUnits (package : TargetPackage) : List CompilationUnit :=
  package.units.filter fun unit => !unit.isAspect

/-! Loading -/

def withoutTrailingSlashes (text : String) : String :=
  String.ofList (text.toList.reverse.dropWhile (· = '/')).reverse

/-- The directory and import path of a target that is given as the one or the other. As an import
path it is taken first. -/
def locate (packages : PackageSource) (target : String) : Except LoadError (Path × String) :=
  let target := withoutTrailingSlashes target
  match packages.dirOf? target with
  | some dir => .ok (dir, target)
  | none =>
    let relative : Path := ⟨target⟩
    let dir := (packages.layout.root.join relative).normalized
    if relative.isRelative && packages.tree.isDirectory dir then
      .ok (dir, packages.layout.importPathOf relative)
    else .error (.targetNotFound target packages.layout.root)

/-- How the units of a package are read. -/
structure UnitReader where
  packages : PackageSource
  packagePath : String
  /-- The end of the names of files that declare advice. -/
  aspectSuffix : String

def UnitReader.read (reader : UnitReader) (id : UnitId) (path : Path) :
    Except LoadError (CompilationUnit × Node) := do
  let source ← PackageSource.readText reader.packages.tree path
  let relative := (reader.packages.layout.root.relativeTo? path).getD path
  let isAspect := path.fileName?.any fun name => name.endsWith reader.aspectSuffix
  CompilationUnit.parse id path relative reader.packagePath source isAspect

/-- Reads one more unit, which has to have the package name of the first. -/
def UnitReader.readNext (reader : UnitReader) (dir : Path)
    (units : List (CompilationUnit × Node)) (path : Path) :
    Except LoadError (List (CompilationUnit × Node)) := do
  let (unit, root) ← reader.read units.length path
  match units.head? with
  | some (first, _) =>
    if first.packageName = unit.packageName then return units ++ [(unit, root)]
    else throw (.mixedPackages dir first.packageName unit.packageName)
  | none => return [(unit, root)]

def UnitReader.readAll (reader : UnitReader) (dir : Path) :
    Except LoadError (List (CompilationUnit × Node)) := do
  let paths ← PackageSource.goFiles reader.packages.tree dir
  if paths.isEmpty then throw (.emptyPackage dir)
  paths.foldlM (reader.readNext dir) []

/-- A resolver for each unit of a package. All of them share the package's index, which other
packages see only from now on. -/
def resolvers (packages : PackageSource) (path : String) (units : List (CompilationUnit × Node)) :
    ResolveM (List (Resolver × Node)) := do
  let bindings ← units.mapM fun (unit, _) => Resolver.loading (packages.bindings unit.imports)
  let contexts := bindings.map fun bindings => (⟨path, bindings.aliases⟩ : TypeContext)
  let name := ((units.head?).map fun (unit, _) => unit.packageName).getD ""
  let index := PackageIndex.ofFiles path name
    ((units.zip contexts).map fun ((unit, root), context) => (⟨unit.source, context⟩, root))
  modify fun memory => { memory with cache := memory.cache.set path (some index) }
  return (units.zip (contexts.zip bindings)).map fun ((unit, root), context, bindings) =>
    ({ packages, index, unit, context, dotImports := bindings.dotImports }, root)

def resolveAll (packages : PackageSource) (path : String)
    (units : List (CompilationUnit × Node)) : ResolveM Unit := do
  (← resolvers packages path units).forM fun (resolver, root) => resolver.resolve root

def resolved (packages : PackageSource) (path : String) (units : List (CompilationUnit × Node)) :
    Except LoadError TargetPackage :=
  match (resolveAll packages path units).run.run ⟨{}, {}, []⟩ with
  | (.error cause, _) => .error cause
  | (.ok (), memory) =>
    .ok ⟨packages.layout, path, units.map Prod.fst, memory.symbols, memory.cache.packageNames⟩

/-- Loads the package that a target names from a source tree. -/
def load (tree : FileTree) (sourceRoot : Path) (target aspectSuffix : String) :
    Except LoadError TargetPackage := do
  let root ← match tree.canonical sourceRoot with
    | .ok root => pure root
    | .error cause => throw (.file sourceRoot cause)
  let packages : PackageSource := ⟨tree, ⟨root, ← ModuleFile.read tree sourceRoot⟩⟩
  let (dir, path) ← locate packages target
  let units ← UnitReader.readAll ⟨packages, path, aspectSuffix⟩ dir
  resolved packages path units

end TargetPackage
end AspectLoom
