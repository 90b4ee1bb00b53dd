import AspectLoom.Proofs.LoadedUnits
import AspectLoom.Proofs.SharedWalks
import AspectLoom.Proofs.SourceViews
/-!
Reading clear of an overlay. What is read over paths that lead neither into the overlay nor to a directory
missing on the way there is read alike once the overlay has come or changed.
-/
namespace AspectLoom

open Actions PackageCache
open FileTree (AgreeOn isEntryName maxLinks steps)
open Syntax (Node)

/-! What is read -/

namespace PackageSource

/-- The paths over which the source files in a directory are found. A file may be missing. -/
inductive FileReads (dir : Path) : Path → Prop where
  | itself : FileReads dir dir
  | file {name : String} (isName : isEntryName name = true) (isGo : isGoFileName name = true) :
    FileReads dir (dir.join ⟨name⟩)

/-- The paths over which the package of an import path is looked up. -/
inductive Reads (source : PackageSource) (importPath : String) : Path → Prop where
  | candidate {relative : Path} (named : source.layout.relativeDir? importPath = some relative) :
    Reads source importPath (source.layout.root.join relative)
  | files {dir path : Path} (found : source.dirOf? importPath = some dir) (reads : FileReads dir path) :
    Reads source importPath path

theorem goFiles_eq (tree : FileTree) (dir : Path) :
    goFiles tree dir = match (tree.list dir).map (List.filter isGoFileName) with
      | .error cause => .error (.file dir cause)
      | .ok names => .ok ((names.map fun name => dir.join ⟨name⟩).filter tree.isFile) := by
  rw [goFiles]
  cases tree.list dir with
  | error cause => rfl
  | ok names => rfl

end PackageSource

namespace TargetPackage

/-- The packages that were asked for once all references in a package are resolved. -/
def asked (packages : PackageSource) (path : String) (units : List (CompilationUnit × Node)) :
    PackageCache :=
  (leaves (resolveAll packages path units) ⟨{}, {}, []⟩).cache

/-- The paths over which a target is loaded from a source tree. -/
inductive Reads (packages : PackageSource) (target suffix : String) : Path → Prop where
  | candidate {relative : Path}
    (named : packages.layout.relativeDir? (withoutTrailingSlashes target) = some relative) :
    Reads packages target suffix (packages.layout.root.join relative)
  | directory (unnamed : packages.dirOf? (withoutTrailingSlashes target) = none) :
    Reads packages target suffix
      (packages.layout.root.join ⟨withoutTrailingSlashes target⟩).normalized
  | files {dir file : Path} {path : String} (located : locate packages target = .ok (dir, path))
    (reads : PackageSource.FileReads dir file) : Reads packages target suffix file
  | package {dir file : Path} {path importPath : String} {units : List (CompilationUnit × Node)}
    (located : locate packages target = .ok (dir, path))
    (read : UnitReader.readAll ⟨packages, path, suffix⟩ dir = .ok units)
    (known : ((asked packages path units).known? importPath).isSome)
    (reads : packages.Reads importPath file) : Reads packages target suffix file

end TargetPackage

/-! Reading it again -/

namespace Ground

variable {ground : Ground} {tree other : FileTree} {path dir : Path} {follow : Bool}

/-- Whether a path leads clear of the overlay and of what is missing on the way there. -/
def Clear (ground : Ground) (tree : FileTree) (path : Path) : Prop :=
  ground.Steady tree (tree.startOf path) (steps path.text)

/-- Whether all of some paths do. -/
def AllClear (ground : Ground) (tree : FileTree) (reads : Path → Prop) : Prop :=
  ∀ path, reads path → ground.Clear tree path

variable (sound : tree.Sound) (spares : ground.Spares tree other)
include spares

theorem Clear.place (clear : ground.Clear tree path) :
    other.place follow path = tree.place follow path :=
  FileTree.place_congr spares.workDir (clear.agree spares)

include sound

theorem Clear.entryAt (clear : ground.Clear tree path) :
    other.entryAt follow path = tree.entryAt follow path :=
  FileTree.entryAt_congr sound spares.workDir (clear.agree spares) spares.directories

theorem Clear.isDirectory (clear : ground.Clear tree path) :
    other.isDirectory path = tree.isDirectory path := by
  rw [FileTree.isDirectory, FileTree.isDirectory, FileTree.target, clear.entryAt sound spares]
  rfl

theorem Clear.isFile (clear : ground.Clear tree path) : other.isFile path = tree.isFile path := by
  rw [FileTree.isFile, FileTree.isFile, FileTree.target, clear.entryAt sound spares]
  rfl

theorem Clear.readText (clear : ground.Clear tree path) : other.readText path = tree.readText path := by
  rw [FileTree.readText, FileTree.readText, FileTree.readBytes, FileTree.readBytes, FileTree.target,
    clear.entryAt sound spares]
  rfl

theorem Clear.canonical (clear : ground.Clear tree path) :
    other.canonical path = tree.canonical path := by
  rw [FileTree.canonical, FileTree.canonical, clear.place spares]
  cases placed : tree.place true path with
  | error cause => rfl
  | ok place =>
      have stands := FileTree.entryAt?_place_congr sound (clear.agree spares) spares.directories placed
      change (if (other.entryAt? place).isSome then _ else _) =
        if (tree.entryAt? place).isSome then _ else _
      rw [stands]

/-! Packages -/

theorem Clear.readSource (clear : ground.Clear tree path) :
    PackageSource.readText other path = PackageSource.readText tree path := by
  rw [PackageSource.readText, PackageSource.readText, clear.readText sound spares]

/-- The source files in a directory are the same. -/
theorem goFiles_again (clear : ground.AllClear tree (PackageSource.FileReads dir)) :
    PackageSource.goFiles other dir = PackageSource.goFiles tree dir := by
  have listed := FileTree.list_filter_congr PackageSource.isGoFileName sound (spares.sound sound)
    spares.workDir ((clear dir .itself).agree spares) (fun name isName isGo => by
      have agree := (clear _ (.file isName isGo)).agree spares
      have isName := Path.isName_of_isEntryName isName
      rwa [Path.steps_join_name isName,
        startOf_eq (Path.isAbsolute_join (Path.isRelative_name isName))] at agree)
    spares.directories
  rw [PackageSource.goFiles_eq, PackageSource.goFiles_eq, listed]
  cases found : tree.list dir with
  | error cause => rfl
  | ok names =>
      refine congrArg Except.ok (List.filter_congr fun path member => ?_)
      obtain ⟨name, among, rfl⟩ := List.mem_map.mp member
      obtain ⟨member, isGo⟩ := List.mem_filter.mp among
      have isName := FileTree.isEntryName_of_list sound found name member
      exact (clear _ (.file isName isGo)).isFile sound spares

theorem readSource_again (clear : ground.AllClear tree (PackageSource.FileReads dir))
    {paths : List Path} (listed : PackageSource.goFiles tree dir = .ok paths) (member : path ∈ paths) :
    PackageSource.readText other path = PackageSource.readText tree path := by
  obtain ⟨name, isName, isGo, rfl⟩ := PackageSource.mem_goFiles sound listed member
  exact (clear _ (.file isName isGo)).readSource sound spares

variable {layout : Layout}

theorem dirOf?_again {importPath : String}
    (clear : ∀ relative, layout.relativeDir? importPath = some relative →
      ground.Clear tree (layout.root.join relative)) :
    PackageSource.dirOf? ⟨other, layout⟩ importPath =
      PackageSource.dirOf? ⟨tree, layout⟩ importPath := by
  rw [PackageSource.dirOf?, PackageSource.dirOf?]
  cases named : layout.relativeDir? importPath with
  | none => rfl
  | some relative =>
      change (if other.isDirectory _ = true then _ else _) = if tree.isDirectory _ = true then _ else _
      rw [(clear relative named).isDirectory sound spares]

/-- The package of an import path is the same. -/
theorem shares_again {importPath : String}
    (clear : ground.AllClear tree (PackageSource.Reads ⟨tree, layout⟩ importPath)) :
    PackageSource.Shares ⟨tree, layout⟩ ⟨other, layout⟩ importPath where
  dir := dirOf?_again sound spares fun relative named => clear _ (.candidate named)
  files := fun dir found => goFiles_again sound spares fun path reads => clear path (.files found reads)
  texts := by
    intro dir paths found listed path member
    have again := readSource_again sound spares (fun path reads => clear path (.files found reads))
      listed member
    rw [PackageSource.readFile, PackageSource.readFile, again]

/-! The target -/

theorem moduleFile_again {root : Path} (clear : ground.Clear tree (root.join ⟨"go.mod"⟩)) :
    ModuleFile.read other root = ModuleFile.read tree root := by
  rw [ModuleFile.read, ModuleFile.read, clear.isFile sound spares, clear.readText sound spares]

variable {target suffix : String}

theorem locate_again
    (clear : ground.AllClear tree (TargetPackage.Reads ⟨tree, layout⟩ target suffix)) :
    TargetPackage.locate ⟨other, layout⟩ target = TargetPackage.locate ⟨tree, layout⟩ target := by
  have named : PackageSource.dirOf? ⟨other, layout⟩ (TargetPackage.withoutTrailingSlashes target) =
      PackageSource.dirOf? ⟨tree, layout⟩ (TargetPackage.withoutTrailingSlashes target) :=
    dirOf?_again sound spares fun relative found => clear _ (.candidate found)
  rw [TargetPackage.locate, TargetPackage.locate, named]
  cases found : PackageSource.dirOf? ⟨tree, layout⟩ (TargetPackage.withoutTrailingSlashes target) with
  | some dir => rfl
  | none =>
      dsimp only
      rw [(clear _ (.directory found)).isDirectory sound spares]

omit sound spares in
theorem foldlM_again {ε α β : Type} {first second : β → α → Except ε β} {items : List α}
    (same : ∀ value, ∀ item ∈ items, first value item = second value item) (value : β) :
    items.foldlM first value = items.foldlM second value := by
  induction items generalizing value with
  | nil => rfl
  | cons item rest ih =>
      rw [List.foldlM_cons, List.foldlM_cons, same value item List.mem_cons_self]
      exact congrArg _ (funext (ih fun value other member =>
        same value other (List.mem_cons_of_mem _ member)))

theorem readAll_again {packagePath : String}
    (clear : ground.AllClear tree (PackageSource.FileReads dir)) :
    TargetPackage.UnitReader.readAll ⟨⟨other, layout⟩, packagePath, suffix⟩ dir =
      TargetPackage.UnitReader.readAll ⟨⟨tree, layout⟩, packagePath, suffix⟩ dir := by
  rw [TargetPackage.UnitReader.readAll, TargetPackage.UnitReader.readAll]
  dsimp only
  rw [goFiles_again sound spares clear]
  cases listed : PackageSource.goFiles tree dir with
  | error cause => rfl
  | ok paths =>
      change (if paths.isEmpty then _ else List.foldlM _ [] paths) =
        if paths.isEmpty then _ else List.foldlM _ [] paths
      congr 1
      refine foldlM_again (fun units path member => ?_) []
      have again := readSource_again sound spares clear listed member
      rw [TargetPackage.UnitReader.readNext, TargetPackage.UnitReader.readNext,
        TargetPackage.UnitReader.read, TargetPackage.UnitReader.read, again]

/-- References are resolved alike when all packages that are asked for are clear. -/
theorem resolved_again {path : String} {units : List (CompilationUnit × Node)}
    {package : TargetPackage}
    (clear : ∀ importPath, ((TargetPackage.asked ⟨tree, layout⟩ path units).known? importPath).isSome →
      ground.AllClear tree (PackageSource.Reads ⟨tree, layout⟩ importPath))
    (resolves : TargetPackage.resolved ⟨tree, layout⟩ path units = .ok package) :
    TargetPackage.resolved ⟨other, layout⟩ path units = .ok package := by
  have shares : ∀ importPath, ground.AllClear tree (PackageSource.Reads ⟨tree, layout⟩ importPath) →
      PackageSource.Shares ⟨tree, layout⟩ ⟨other, layout⟩ importPath :=
    fun importPath => shares_again sound spares
  have mirrors := TargetPackage.resolveAll_mirrors shares path units
  obtain ⟨memory, ran, rfl⟩ := TargetPackage.resolved_ok_iff.mp resolves
  have left : TargetPackage.asked ⟨tree, layout⟩ path units = memory.cache := by
    rw [TargetPackage.asked, leaves, ran]
  rw [left] at clear
  exact TargetPackage.resolved_ok_iff.mpr ⟨memory, ((mirrors _ _ _ trivial ran).2 clear).2, rfl⟩

/-- A target is loaded alike. -/
theorem load_again {sourceRoot : Path} {package : TargetPackage}
    (root : ground.Clear tree sourceRoot) (modFile : ground.Clear tree (sourceRoot.join ⟨"go.mod"⟩))
    (loads : TargetPackage.load tree sourceRoot target suffix = .ok package)
    (clear : ground.AllClear tree (TargetPackage.Reads ⟨tree, package.layout⟩ target suffix)) :
    TargetPackage.load other sourceRoot target suffix = .ok package := by
  obtain ⟨canonical, modulePath, dir, path, units, found, module, located, read, resolves⟩ :=
    TargetPackage.load_ok_iff.mp loads
  obtain ⟨layout, _⟩ := TargetPackage.resolved_units resolves
  rw [layout] at clear
  refine TargetPackage.load_ok_iff.mpr ⟨canonical, modulePath, dir, path, units, ?_, ?_, ?_, ?_, ?_⟩
  · exact (root.canonical sound spares).trans found
  · exact (moduleFile_again sound spares modFile).trans module
  · exact (locate_again sound spares clear).trans located
  · exact (readAll_again sound spares fun file reads => clear file (.files located reads)).trans read
  · exact resolved_again sound spares (fun importPath known file reads =>
      clear file (.package located read known reads)) resolves

end Ground
end AspectLoom
