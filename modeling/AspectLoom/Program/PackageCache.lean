import AspectLoom.Program.Layout
import AspectLoom.Program.PackageIndex
import AspectLoom.Program.Unit
import AspectLoom.Sort
/-!
Loading of packages on demand. Every package of the source tree is indexed at most once; while a
package is being indexed it counts as unknown, which ends the walk along a cycle of imports.
-/
namespace AspectLoom

open Syntax (Node)

/-- Where packages come from. -/
structure PackageSource where
  tree : FileTree
  layout : Layout

/-- The packages that were asked for, with their indexes; those without one are not loadable. -/
structure PackageCache where
  entries : List (String × Option PackageIndex) := []
deriving Inhabited

abbrev LoadM := ExceptT LoadError (StateM PackageCache)

namespace PackageCache

def set (cache : PackageCache) (path : String) (index : Option PackageIndex) : PackageCache :=
  ⟨Assoc.insert path index cache.entries⟩

/-- The known package names by import path, in the order of the paths. -/
def packageNames (cache : PackageCache) : List (String × String) :=
  sortBy (fun left right => left.1 ≤ right.1)
    (cache.entries.filterMap fun (path, index) => index.map fun index => (path, index.name))

end PackageCache

namespace PackageSource

/-- The directory of an import path, if there is one in the tree. -/
def dirOf? (source : PackageSource) (importPath : String) : Option Path := do
  let dir := source.layout.root.join (← source.layout.relativeDir? importPath)
  if source.tree.isDirectory dir then some dir else none

def isGoFileName (name : String) : Bool :=
  name.endsWith ".go" && !name.endsWith "_test.go" && !name.startsWith "."

/-- The source files in a directory, in order; tests and hidden files are left out. -/
def goFiles (tree : FileTree) (dir : Path) : Except LoadError (List Path) :=
  match tree.list dir with
  | .error cause => .error (.file dir cause)
  | .ok names =>
    .ok (((names.filter isGoFileName).map fun name => dir.join ⟨name⟩).filter tree.isFile)

def readText (tree : FileTree) (path : Path) : Except LoadError String :=
  match tree.readText path with
  | .ok text => .ok text
  | .error cause => .error (.file path cause)

/-- The text and syntax tree of a file. -/
def readFile (tree : FileTree) (path : Path) : Except LoadError (String × Node) := do
  let text ← readText tree path
  match Node.ofSource? text with
  | some root => return (text, root)
  | none => throw (.badSyntax path)

/-- What the imports of a file bind: local names to import paths, and the dot imports. -/
structure Bindings where
  aliases : List (String × String) := []
  dotImports : List String := []
deriving Repr, Inhabited

def bindImport (package : String → LoadM (Option PackageIndex)) (bindings : Bindings)
    (spec : Import) : LoadM Bindings := do
  if spec.isBlank then return bindings
  else if spec.isDot then
    return { bindings with dotImports := bindings.dotImports ++ [spec.path] }
  else
    let name ← if spec.name.isSome then pure none else
      pure ((← package spec.path).map PackageIndex.name)
    return { bindings with
      aliases := Assoc.insert (spec.localName name) spec.path bindings.aliases }

/-- Only imports without a written name need their package. -/
def bindImports (package : String → LoadM (Option PackageIndex)) (imports : List Import) :
    LoadM Bindings :=
  imports.foldlM (bindImport package) {}

def buildIndex (package : String → LoadM (Option PackageIndex)) (importPath : String)
    (files : List (String × Node)) : LoadM PackageIndex := do
  let contexts ← files.mapM fun (text, root) => do
    let bindings ← bindImports package (root.imports text)
    return (⟨importPath, bindings.aliases⟩ : TypeContext)
  let name := (files.findSome? fun (text, root) => root.packageName? text).getD ""
  return PackageIndex.ofFiles importPath name
    ((files.zip contexts).map fun ((text, root), context) => (⟨text, context⟩, root))

/-- Indexes a package that was not asked for before. -/
def loadPackage (source : PackageSource) (package : String → LoadM (Option PackageIndex))
    (importPath : String) : LoadM (Option PackageIndex) := do
  modify fun cache => cache.set importPath none
  match source.dirOf? importPath with
  | none => return none
  | some dir =>
    let paths ← goFiles source.tree dir
    if paths.isEmpty then return none
    let files ← paths.mapM fun path => readFile source.tree path
    let index ← buildIndex package importPath files
    modify fun cache => cache.set importPath (some index)
    return some index

/-- The index of a package. `depth` bounds the chain of imports that lead to each other. -/
def packageWithin (source : PackageSource) : Nat → String → LoadM (Option PackageIndex)
  | 0, _ => return none
  | depth + 1, importPath => do
    match Assoc.find? importPath (← get).entries with
    | some known => return known
    | none => loadPackage source (packageWithin source depth) importPath

/-- The import paths that a file mentions. -/
def mentionedIn (bytes : ByteArray) : List String :=
  match String.fromUTF8? bytes with
  | none => []
  | some text =>
    match Node.ofSource? text with
    | none => []
    | some root => (root.imports text).map Import.path

def mentions (tree : FileTree) : List String :=
  tree.entries.flatMap fun (_, entry) =>
    match entry with
    | .file bytes => mentionedIn bytes
    | _ => []

/-- More than the length of any chain of imports, as each but the first is mentioned in some file. -/
def importBound (tree : FileTree) : Nat := (mentions tree).length + 2

/-- The index of a package by its import path; packages outside the tree have none. -/
def package (source : PackageSource) (importPath : String) : LoadM (Option PackageIndex) := do
  -- The bound takes reading all files, so it is not asked for before it is needed.
  match Assoc.find? importPath (← get).entries with
  | some known => return known
  | none => packageWithin source (importBound source.tree) importPath

def bindings (source : PackageSource) (imports : List Import) : LoadM Bindings :=
  bindImports source.package imports

end PackageSource
end AspectLoom
