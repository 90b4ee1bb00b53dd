import AspectLoom.Proofs.ClearReads
import AspectLoom.Proofs.RootSpellings
/-!
What a weave reads of its source tree. Where the target and the import paths that are looked up stay
below the source root by their spellings, and no path there leads into the overlay, all of it is read
clear of the overlay.
-/
namespace AspectLoom

open Actions
open FileTree (isEntryName maxLinks steps)
open Syntax (Node)

/-! Paths that go down -/

namespace Path

variable {base path : Path} {name : String}

/-- Whether a path is below a base, or the base itself, by its spelling. -/
def GoesDown (base path : Path) : Prop :=
  ∃ relative, base.relativeTo? path = some relative ∧ relative.isPlain = true

theorem goesDown_iff : base.GoesDown path ↔
    ∃ names, AreNames names ∧ path.components = base.components ++ names.map .name := by
  constructor
  · rintro ⟨relative, below, plain⟩
    refine ⟨relative.names, relative.areNames_names, ?_⟩
    rw [components_relativeTo? below, components_of_isPlain plain]
  · rintro ⟨names, _, same⟩
    obtain ⟨relative, below⟩ := relativeTo?_isSome (same ▸ List.prefix_append _ _)
    refine ⟨relative, below, ?_⟩
    rw [components_relativeTo? below] at same
    rw [isPlain, List.append_cancel_left same]
    simp

instance (base path : Path) : Decidable (base.GoesDown path) :=
  decidable_of_iff ((base.relativeTo? path).any isPlain = true) (Option.any_eq_true _ _)

theorem GoesDown.file (down : base.GoesDown path) (isName : IsName name) :
    base.GoesDown (path.join ⟨name⟩) := by
  obtain ⟨names, areNames, same⟩ := goesDown_iff.mp down
  refine goesDown_iff.mpr ⟨names ++ [name],
    List.forall_mem_append.mpr ⟨areNames, areNames_singleton isName⟩, ?_⟩
  rw [components_join_name isName, same, List.map_append, List.append_assoc]
  rfl

/-- What is below an absolute path is absolute. -/
theorem GoesDown.isAbsolute (down : base.GoesDown path) (absolute : base.isAbsolute = true) :
    path.isAbsolute = true := by
  obtain ⟨names, _, same⟩ := goesDown_iff.mp down
  rw [isAbsolute_iff_root, same]
  exact List.mem_append_left _ (isAbsolute_iff_root.mp absolute)

theorem map_text_components (absolute : path.isAbsolute = true) :
    path.components.map Component.text = "/" :: path.segments.filter (· ≠ ".") := by
  rw [components_eq, absolute, leadOf, if_pos rfl, List.singleton_append, List.map_cons,
    map_text_segments]
  rfl

/-- The segments of a path below an absolute one. -/
theorem GoesDown.segments (down : base.GoesDown path) (absolute : base.isAbsolute = true) :
    ∃ names, AreNames names ∧
      path.segments.filter (· ≠ ".") = base.segments.filter (· ≠ ".") ++ names := by
  obtain ⟨names, areNames, same⟩ := goesDown_iff.mp down
  have texts := congrArg (List.map Component.text) same
  rw [List.map_append, map_text_components absolute, map_text_components (down.isAbsolute absolute),
    List.map_map, List.cons_append] at texts
  refine ⟨names, areNames, ?_⟩
  rw [(List.cons.inj texts).2]
  exact congrArg _ (List.map_id names)

theorem components_slash : components ⟨"/"⟩ = [.root] := by
  have absolute : (⟨"/"⟩ : Path).isAbsolute = true := isAbsolute_iff.mpr ⟨[], rfl⟩
  rw [components_eq, absolute, segments_of_slashes (by simp [FileTree.withoutSlashes])]
  rfl

theorem components_pathOf {place : Place} (areNames : AreNames place) :
    (FileTree.pathOf place).components = .root :: place.map .name := by
  rw [FileTree.pathOf_eq_join areNames, components_join (isAbsolute_ofNames areNames)
    (head?_segments_ofNames areNames), components_slash, components_ofNames areNames]
  rfl

theorem components_foldl_join {names : List String} (areNames : AreNames names) (base : Path) :
    ((names.map Component.name).foldl (fun path component => path.join ⟨component.text⟩)
      base).components = base.components ++ names.map .name := by
  induction names generalizing base with
  | nil => exact (List.append_nil _).symm
  | cons name names ih =>
      obtain ⟨isName, others⟩ := List.forall_mem_cons.mp areNames
      rw [List.map_cons, List.foldl_cons, ih others, Component.text, components_join_name isName,
        List.append_assoc]
      rfl

/-- Normalizing an absolute path without `..` keeps its components. -/
theorem components_normalized {names : List String} (areNames : AreNames names)
    (same : path.components = .root :: names.map .name) :
    path.normalized.components = path.components := by
  have first : join ⟨""⟩ ⟨"/"⟩ = ⟨"/"⟩ := if_pos (isAbsolute_iff.mpr ⟨[], rfl⟩)
  rw [normalized, ofComponents, same, List.foldl_cons, Component.text, first,
    components_foldl_join areNames, components_slash]
  rfl

end Path

theorem FileTree.components_canonical {tree : FileTree} {path canonical : Path} (sound : tree.Sound)
    (found : tree.canonical path = .ok canonical) :
    ∃ names, Path.AreNames names ∧ canonical.components = .root :: names.map .name := by
  obtain ⟨place, entry, _, stands, rfl⟩ := FileTree.canonical_ok found
  have areNames : Path.AreNames place := fun name member =>
    Path.isName_of_isEntryName (sound.names stands name member)
  exact ⟨place, areNames, Path.components_pathOf areNames⟩

/-! What import paths and targets name -/

/-- Whether the directory of an import path is below the source root by its spelling. -/
def Layout.KeepsBelow (layout : Layout) (importPath : String) : Prop :=
  ∀ relative, layout.relativeDir? importPath = some relative →
    layout.root.GoesDown (layout.root.join relative)

instance (layout : Layout) (importPath : String) : Decidable (layout.KeepsBelow importPath) :=
  match named : layout.relativeDir? importPath with
  | none => isTrue fun _ found => nomatch named.symm.trans found
  | some relative =>
    decidable_of_iff (layout.root.GoesDown (layout.root.join relative))
      ⟨fun down _ found => Option.some.inj (named.symm.trans found) ▸ down,
        fun keeps => keeps relative named⟩

theorem PackageSource.FileReads.goesDown {root dir path : Path} (down : root.GoesDown dir)
    (reads : FileReads dir path) : root.GoesDown path := by
  cases reads with
  | itself => exact down
  | file isName isGo => exact down.file (Path.isName_of_isEntryName isName)

namespace PackageSource

variable {packages : PackageSource} {importPath : String} {dir path : Path}
  (keeps : packages.layout.KeepsBelow importPath)
include keeps

theorem dirOf?_goesDown (found : packages.dirOf? importPath = some dir) :
    packages.layout.root.GoesDown dir := by
  obtain ⟨relative, named, found⟩ := Option.bind_eq_some_iff.mp found
  dsimp only at found
  split at found <;> cases found
  exact keeps relative named

theorem Reads.goesDown (reads : packages.Reads importPath path) : packages.layout.root.GoesDown path := by
  cases reads with
  | candidate named => exact keeps _ named
  | files found reads => exact reads.goesDown (dirOf?_goesDown keeps found)

end PackageSource

namespace TargetPackage

/-- Whether a target, which names a package or else a directory, is below the source root. -/
structure IsBelow (layout : Layout) (target : String) : Prop where
  package : layout.KeepsBelow (withoutTrailingSlashes target)
  directory : layout.root.GoesDown (layout.root.join ⟨withoutTrailingSlashes target⟩)

/-- The import paths that are looked up to load a target. -/
def lookups (packages : PackageSource) (target suffix : String) : Except LoadError (List String) := do
  let (dir, path) ← locate packages target
  let units ← UnitReader.readAll ⟨packages, path, suffix⟩ dir
  return (asked packages path units).entries.map Prod.fst

variable {packages : PackageSource} {target suffix : String} {dir path : Path}

theorem known_lookups {packagePath importPath : String} {units : List (CompilationUnit × Node)}
    (located : locate packages target = .ok (dir, packagePath))
    (read : UnitReader.readAll ⟨packages, packagePath, suffix⟩ dir = .ok units)
    (known : ((asked packages packagePath units).known? importPath).isSome) :
    ∃ importPaths, lookups packages target suffix = .ok importPaths ∧ importPath ∈ importPaths := by
  obtain ⟨entry, found⟩ := Option.isSome_iff_exists.mp known
  refine ⟨_, (bind_of_ok located _).trans (bind_of_ok read _), ?_⟩
  exact List.mem_map_of_mem (Assoc.mem_of_find? found)

section
variable (packages) {sourceRoot : Path} (sound : packages.tree.Sound)
  (canonical : packages.tree.canonical sourceRoot = .ok packages.layout.root)
  (below : IsBelow packages.layout target)
include sound canonical below

theorem directory_goesDown : packages.layout.root.GoesDown
    (packages.layout.root.join ⟨withoutTrailingSlashes target⟩).normalized := by
  obtain ⟨above, areNames, root⟩ := FileTree.components_canonical sound canonical
  obtain ⟨names, belowNames, same⟩ := Path.goesDown_iff.mp below.directory
  refine Path.goesDown_iff.mpr ⟨names, belowNames, ?_⟩
  rw [Path.components_normalized (List.forall_mem_append.mpr ⟨areNames, belowNames⟩), same]
  rw [same, root, List.map_append]
  rfl

/-- The directory of a target is below the source root. -/
theorem locate_goesDown {packagePath : String}
    (located : locate packages target = .ok (dir, packagePath)) :
    packages.layout.root.GoesDown dir := by
  rw [locate] at located
  dsimp only at located
  split at located
  · rename_i found
    cases located
    exact PackageSource.dirOf?_goesDown below.package found
  · split at located
    · obtain ⟨rfl, _⟩ := Prod.mk.inj (Except.ok.inj located)
      exact directory_goesDown packages sound canonical below
    · cases located

end
end TargetPackage

/-! Source trees without a way into the overlay -/

namespace Ground

variable {ground : Ground} {tree : FileTree} {root path : Path} {name : String}

/-- A `.` at the end of a path does not matter. -/
theorem clear_iff : ground.Clear tree path ↔ ground.Steady tree (tree.startOf path) path.segments := by
  rw [Clear, Steady, Steady]
  rcases Path.steps_cases path with same | same
  · rw [same]
  · rw [same, FileTree.visits_dot]

theorem Secludes.clear_root (secludes : ground.Secludes root tree) : ground.Clear tree root := by
  have steady := secludes [] (List.forall_mem_nil _)
  rw [List.append_nil] at steady
  exact clear_iff.mpr steady

theorem Secludes.clear_file (secludes : ground.Secludes root tree) (isName : Path.IsName name) :
    ground.Clear tree (root.join ⟨name⟩) := by
  have relative := Path.isRelative_name isName
  rw [clear_iff, startOf_eq (Path.isAbsolute_join relative), Path.segments_join relative,
    Path.segments_name isName]
  exact secludes [name] (Path.areNames_singleton isName)

/-- What is below the root is clear of the overlay. -/
theorem Secludes.clear (secludes : ground.Secludes root tree) (absolute : root.isAbsolute = true)
    (down : root.GoesDown path) : ground.Clear tree path := by
  obtain ⟨names, areNames, same⟩ := down.segments absolute
  have plain : names.filter (· ≠ ".") = names :=
    List.filter_eq_self.mpr fun name member => by simpa using (areNames name member).2.2.1
  have start : tree.startOf path = tree.startOf root :=
    startOf_eq ((down.isAbsolute absolute).trans absolute.symm)
  have visits : tree.visits maxLinks (tree.startOf path) path.segments =
      tree.visits maxLinks (tree.startOf root) (root.segments ++ names) := by
    rw [start, ← FileTree.visits_without_dots, same,
      ← FileTree.visits_without_dots _ _ (root.segments ++ names), List.filter_append, plain]
  refine clear_iff.mpr fun place visited => ?_
  exact secludes names areNames place (visits ▸ visited)

variable {packages : PackageSource} {sourceRoot : Path}

theorem Secludes.clear_of_canonical (secludes : ground.Secludes packages.layout.root packages.tree)
    (sound : packages.tree.Sound)
    (canonical : packages.tree.canonical sourceRoot = .ok packages.layout.root)
    (down : packages.layout.root.GoesDown path) : ground.Clear packages.tree path := by
  obtain ⟨names, _, root⟩ := FileTree.components_canonical sound canonical
  exact secludes.clear (Path.isAbsolute_iff_root.mpr (root ▸ List.mem_cons_self)) down

-- The packages are given, as they cannot be read off what their tree answers.
variable (packages)

/-- A package below the source root is read clear of the overlay. -/
theorem Secludes.clear_package (secludes : ground.Secludes packages.layout.root packages.tree)
    (sound : packages.tree.Sound)
    (canonical : packages.tree.canonical sourceRoot = .ok packages.layout.root) {importPath : String}
    (keeps : packages.layout.KeepsBelow importPath) :
    ground.AllClear packages.tree (packages.Reads importPath) :=
  fun _ reads => secludes.clear_of_canonical sound canonical (reads.goesDown keeps)

/-- A target below the source root is loaded clear of the overlay when the packages that it asks for are. -/
theorem Secludes.clear_target (secludes : ground.Secludes packages.layout.root packages.tree)
    (sound : packages.tree.Sound)
    (canonical : packages.tree.canonical sourceRoot = .ok packages.layout.root) {target suffix : String}
    (below : TargetPackage.IsBelow packages.layout target)
    (imports : ∀ importPaths, TargetPackage.lookups packages target suffix = .ok importPaths →
      ∀ importPath ∈ importPaths, ground.AllClear packages.tree (packages.Reads importPath)) :
    ground.AllClear packages.tree (TargetPackage.Reads packages target suffix) := by
  have clear : ∀ path, packages.layout.root.GoesDown path → ground.Clear packages.tree path :=
    fun path => secludes.clear_of_canonical sound canonical
  intro path reads
  cases reads with
  | candidate named => exact clear _ (below.package _ named)
  | directory unnamed => exact clear _ (TargetPackage.directory_goesDown packages sound canonical below)
  | files located reads =>
      exact clear _ (reads.goesDown (TargetPackage.locate_goesDown packages sound canonical below
        located))
  | package located read known reads =>
      obtain ⟨importPaths, found, member⟩ := TargetPackage.known_lookups located read known
      exact imports importPaths found _ member path reads

variable {packages}

/-- Whether a path leads to nothing in the overlay but over its directories. -/
def Outside (ground : Ground) (tree : FileTree) (path : Path) : Prop :=
  ∀ place ∈ tree.visits maxLinks (tree.startOf path) (steps path.text),
    tree.entryAt? place = some .directory ∨ ¬ ground.place <+: place

/-- What is read over such a path is clear of the overlay, as nothing is missing on the way there. -/
theorem Outside.clear {text : String} (outside : ground.Outside tree path)
    (read : tree.readText path = .ok text) : ground.Clear tree path := by
  obtain ⟨bytes, bytesRead, _⟩ := bind_ok read
  obtain ⟨entry, target, _⟩ := bind_ok bytesRead
  obtain ⟨place, placed, stands⟩ := FileTree.entryAt_ok_iff.mp target
  obtain ⟨_, walked⟩ := FileTree.place_ok_iff.mp placed
  intro visited member
  refine (outside visited member).imp_right fun off => ⟨off, fun ⟨_, missing⟩ => ?_⟩
  obtain ⟨found, stands⟩ := FileTree.visits_exist walked stands visited member
  cases missing.symm.trans stands

end Ground
end AspectLoom
