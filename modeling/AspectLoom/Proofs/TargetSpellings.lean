import AspectLoom.Proofs.SourceReads
import AspectLoom.Proofs.WeaveAgain
/-!
The spellings of a target. A directory of a source tree has one import path. Whatever names the
directory, be it the import path or a relative path of any spelling, leads to it and to its path.
What is an import path is never taken as a relative path.
-/
namespace AspectLoom

open FileTree (pathOf)
open Actions

namespace Path

variable {path root : Path} {place : Place} {names : List String}

/-- Whether a path goes down some names; `.` pieces and further slashes do not count. -/
def SpellsNames (path : Path) (names : List String) : Prop :=
  path.components.filter (· ≠ .current) = names.map .name

theorem endsWith_ofNames (areNames : AreNames names) (below : names ≠ []) :
    (ofNames names).text.endsWith "/" = false := by
  rcases List.eq_nil_or_concat names with none | ⟨front, last, rfl⟩
  · exact absurd none below
  · rw [List.concat_eq_append] at areNames ⊢
    obtain ⟨above, isName⟩ := List.forall_mem_append.mp areNames
    rw [← join_ofNames above (List.forall_mem_singleton.mp isName)]
    exact not_endsWith_join (List.forall_mem_singleton.mp isName)

theorem text_ofNames_ne_empty (areNames : AreNames names) (below : names ≠ []) :
    (ofNames names).text ≠ "" := by
  intro empty
  have pieces := pieces_ofNames areNames below
  rw [show ofNames names = ⟨""⟩ from congrArg Path.mk empty] at pieces
  have blank : "" ∈ names := by
    rw [← pieces]
    decide
  exact (areNames "" blank).2.1 rfl

theorem pathOf_join_name {name : String} (areNames : AreNames place) (isName : IsName name) :
    (pathOf place).join ⟨name⟩ = pathOf (place ++ [name]) := by
  have both : AreNames (place ++ [name]) :=
    List.forall_mem_append.mpr ⟨areNames, areNames_singleton isName⟩
  rw [FileTree.pathOf_eq_join areNames, FileTree.pathOf_eq_join both, join_join_ofNames areNames isName]

theorem foldl_join_pathOf (areNames : AreNames place) (belowNames : AreNames names) :
    (names.map Component.name).foldl (fun path component => path.join ⟨component.text⟩)
      (pathOf place) = pathOf (place ++ names) := by
  induction names generalizing place with
  | nil => rw [List.append_nil]; rfl
  | cons name rest ih =>
      obtain ⟨isName, others⟩ := List.forall_mem_cons.mp belowNames
      have next : AreNames (place ++ [name]) :=
        List.forall_mem_append.mpr ⟨areNames, areNames_singleton isName⟩
      rw [List.map_cons, List.foldl_cons, Component.text, pathOf_join_name areNames isName,
        ih next others, List.append_assoc]
      rfl

/-- Normalizing leaves nothing of how an absolute path without `..` was spelled. -/
theorem normalized_eq_pathOf (areNames : AreNames names)
    (same : path.components = .root :: names.map .name) : path.normalized = pathOf names := by
  have first : join ⟨""⟩ ⟨"/"⟩ = ⟨"/"⟩ := if_pos (isAbsolute_iff.mpr ⟨[], rfl⟩)
  rw [normalized, ofComponents, same, List.foldl_cons, Component.text, first]
  exact foldl_join_pathOf (List.forall_mem_nil _) areNames

/-- A root and names below it are written one behind the other. -/
theorem pathOf_join_ofNames (areNames : AreNames place) (belowNames : AreNames names)
    (below : names ≠ []) : (pathOf place).join (ofNames names) = pathOf (place ++ names) := by
  induction names using List.reverseRecOn with
  | nil => exact absurd rfl below
  | append_singleton front name ih =>
      obtain ⟨above, isName⟩ := List.forall_mem_append.mp belowNames
      have isName := List.forall_mem_singleton.mp isName
      by_cases first : front = []
      · subst first
        exact pathOf_join_name areNames isName
      · have nested : AreNames (place ++ front) := List.forall_mem_append.mpr ⟨areNames, above⟩
        rw [← join_join_ofNames above isName, ih above first, pathOf_join_name nested isName,
          List.append_assoc]

theorem spellsNames_ofNames (areNames : AreNames names) : (ofNames names).SpellsNames names := by
  rw [SpellsNames, components_ofNames areNames, List.filter_eq_self]
  exact List.forall_mem_map.mpr fun _ _ => rfl

namespace SpellsNames

variable (spells : path.SpellsNames names)
include spells

theorem isRelative : path.isAbsolute = false := by
  rw [← Bool.not_eq_true, isAbsolute_iff_root]
  intro member
  have kept : Component.root ∈ names.map .name := by
    rw [← spells]
    exact List.mem_filter.mpr ⟨member, rfl⟩
  obtain ⟨_, _, same⟩ := List.mem_map.mp kept
  cases same

theorem filterMap_segments : path.segments.filterMap Component.ofPiece? = names.map .name := by
  have whole := spells
  rw [SpellsNames, components_eq, spells.isRelative, List.filter_append] at whole
  have lead : (leadOf false path.segments).filter (· ≠ .current) = [] := by
    rw [leadOf]
    split
    · contradiction
    · split <;> rfl
  have pieces : (path.segments.filterMap Component.ofPiece?).filter (· ≠ .current) =
      path.segments.filterMap Component.ofPiece? := by
    refine List.filter_eq_self.mpr fun component member => ?_
    obtain rfl | ⟨_, _, rfl⟩ := mem_filterMap_ofPiece? member <;> rfl
  rwa [lead, pieces, List.nil_append] at whole

/-- Below an absolute path the spelling does not matter. -/
theorem components_join (absolute : root.isAbsolute = true) :
    (root.join path).components = root.components ++ names.map .name := by
  rw [components_eq, components_eq, isAbsolute_join spells.isRelative, absolute,
    segments_join spells.isRelative, List.filterMap_append, spells.filterMap_segments,
    ← List.append_assoc]
  rfl

/-- The names are all that counts for an import path. -/
theorem texts (areNames : AreNames names) :
    (path.components.map Component.text).filter (· ≠ ".") = names := by
  have lead : ((leadOf false path.segments).map Component.text).filter (· ≠ ".") = [] := by
    rw [leadOf]
    split
    · contradiction
    · split <;> rfl
  rw [components_eq, spells.isRelative, spells.filterMap_segments, List.map_append,
    List.filter_append, lead, List.nil_append, List.map_map]
  change (names.map id).filter (· ≠ ".") = names
  rw [List.map_id, List.filter_eq_self]
  exact fun name member => by simpa using (areNames name member).2.2.1

end SpellsNames

end Path

namespace TargetPackage

open AspectLoom.Path (AreNames SpellsNames ofNames)

def slashes (count : Nat) : String := String.ofList (List.replicate count '/')

theorem withoutTrailingSlashes_append {text : String} (ends : text.endsWith "/" = false)
    (count : Nat) : withoutTrailingSlashes (text ++ slashes count) = text := by
  apply String.toList_inj.mp
  have dropped : (text.toList.reverse.dropWhile (· = '/')) = text.toList.reverse := by
    rcases List.eq_nil_or_concat text.toList with none | ⟨front, last, split⟩
    · rw [none]; rfl
    · have different : last ≠ '/' := by
        rintro rfl
        rw [← Bool.not_eq_true, Path.endsWith_slash_iff] at ends
        exact ends ⟨front, by rw [split, List.concat_eq_append]⟩
      simp [split, different]
  rw [withoutTrailingSlashes, String.toList_ofList, String.toList_append, slashes,
    String.toList_ofList, List.reverse_append, List.reverse_replicate,
    List.dropWhile_append_of_pos (by simp), dropped, List.reverse_reverse]

theorem SpellsNames.trimmed {target : String} {names : List String} (below : names ≠ [])
    (spells : SpellsNames ⟨target⟩ names) : SpellsNames ⟨withoutTrailingSlashes target⟩ names := by
  have filled : withoutTrailingSlashes target ≠ "" := by
    intro empty
    have none := spells.filterMap_segments
    rw [Path.segments_of_slashes empty] at none
    exact below (List.map_eq_nil_iff.mp none.symm)
  have same : Path.components ⟨withoutTrailingSlashes target⟩ = Path.components ⟨target⟩ :=
    Path.components_congr (Path.isAbsolute_withoutSlashes filled)
      (Path.segments_withoutSlashes ⟨target⟩)
  rw [SpellsNames, same]
  exact spells

theorem locate_of_dir {packages : PackageSource} {target text : String} {dir : Path}
    (trimmed : withoutTrailingSlashes target = text) (found : packages.dirOf? text = some dir) :
    locate packages target = .ok (dir, text) := by
  rw [locate]
  dsimp only
  rw [trimmed, found]

/-- A target counts for what is loaded only by where it is located. -/
theorem load_congr {tree : FileTree} {sourceRoot root : Path} {modulePath : Option String}
    (canonical : tree.canonical sourceRoot = .ok root)
    (isModule : ModuleFile.read tree sourceRoot = .ok modulePath) {target other : String}
    (same : locate ⟨tree, ⟨root, modulePath⟩⟩ target = locate ⟨tree, ⟨root, modulePath⟩⟩ other)
    (suffix : String) : load tree sourceRoot target suffix = load tree sourceRoot other suffix := by
  rw [load, load, canonical, isModule]
  change (locate ⟨tree, ⟨root, modulePath⟩⟩ target >>= _) =
    locate ⟨tree, ⟨root, modulePath⟩⟩ other >>= _
  rw [same]

section
variable {packages : PackageSource} {place : Place} {names : List String}
  (rooted : packages.layout.root = FileTree.pathOf place) (areNames : AreNames place)
  (belowNames : AreNames names) (below : names ≠ [])

section
include belowNames below

theorem importPathOf_ofNames (layout : Layout) : layout.importPathOf (ofNames names) =
    match layout.modulePath with
    | some modulePath => modulePath ++ "/" ++ (ofNames names).text
    | none => (ofNames names).text := by
  have texts := (Path.spellsNames_ofNames belowNames).texts belowNames
  have filled : "/".intercalate names ≠ "" := Path.text_ofNames_ne_empty belowNames below
  rw [Layout.importPathOf, texts]
  cases layout.modulePath with
  | none => exact if_neg filled
  | some modulePath => exact if_neg filled

omit below in
/-- A path has the import path of the names that it spells. -/
theorem importPathOf_spelled (layout : Layout) {path : Path} (spells : SpellsNames path names) :
    layout.importPathOf path = layout.importPathOf (ofNames names) := by
  rw [Layout.importPathOf, Layout.importPathOf, spells.texts belowNames,
    (Path.spellsNames_ofNames belowNames).texts belowNames]

theorem endsWith_importPathOf (layout : Layout) :
    (layout.importPathOf (ofNames names)).endsWith "/" = false := by
  have ends := Path.endsWith_ofNames belowNames below
  rw [importPathOf_ofNames belowNames below]
  split
  · rwa [Path.endsWith_append (Path.text_ofNames_ne_empty belowNames below)]
  · exact ends

theorem relativeDir?_importPathOf (layout : Layout) :
    layout.relativeDir? (layout.importPathOf (ofNames names)) = some (ofNames names) := by
  rw [importPathOf_ofNames belowNames below, Layout.relativeDir?]
  split
  · rename_i noModule
    rw [noModule]
  · rename_i modulePath isModule
    rw [isModule]
    dsimp only
    rw [if_neg, Text.stripStart?_append]
    · rfl
    · intro same
      have longer := congrArg (fun text => text.toList.length) same
      simp at longer

end

include rooted areNames belowNames below

theorem normalized_join {target : String} (spells : SpellsNames ⟨target⟩ names) :
    (packages.layout.root.join ⟨target⟩).normalized =
      packages.layout.root.join (ofNames names) := by
  rw [rooted, Path.pathOf_join_ofNames areNames belowNames below]
  apply Path.normalized_eq_pathOf (List.forall_mem_append.mpr ⟨areNames, belowNames⟩)
  rw [spells.components_join (FileTree.isAbsolute_pathOf place), Path.components_pathOf areNames,
    List.map_append]
  rfl

/-- A spelling that is no import path leads to the directory that it spells. -/
theorem locate_spelled {target : String} (spells : SpellsNames ⟨target⟩ names)
    (isDirectory : packages.tree.isDirectory (packages.layout.root.join (ofNames names)) = true)
    (unclaimed : packages.dirOf? (withoutTrailingSlashes target) = none) :
    locate packages target = .ok (packages.layout.root.join (ofNames names),
      packages.layout.importPathOf (ofNames names)) := by
  have trimmed := SpellsNames.trimmed below spells
  have relative : (⟨withoutTrailingSlashes target⟩ : Path).isRelative = true := by
    rw [Path.isRelative, trimmed.isRelative]
    rfl
  rw [locate]
  dsimp only
  rw [unclaimed]
  dsimp only
  rw [normalized_join rooted areNames belowNames below trimmed, relative, isDirectory,
    importPathOf_spelled belowNames packages.layout trimmed]
  rfl

end

/-- Without a module a spelling that is taken for an import path leads to the directory that it
spells, if not always in its normal form. -/
theorem components_of_dirOf? (packages : PackageSource) {names : List String} {target : String}
    {dir : Path} (absolute : packages.layout.root.isAbsolute = true)
    (noModule : packages.layout.modulePath = none) (areNames : AreNames names)
    (spells : SpellsNames ⟨target⟩ names) (taken : packages.dirOf? target = some dir) :
    dir.components = (packages.layout.root.join (ofNames names)).components := by
  have here : packages.layout.root.join ⟨target⟩ = dir := by
    rw [PackageSource.dirOf?, Layout.relativeDir?] at taken
    simp only [noModule, Option.bind_eq_bind, Option.bind_some] at taken
    split at taken
    · exact Option.some.inj taken
    · cases taken
  rw [← here, spells.components_join absolute,
    (Path.spellsNames_ofNames areNames).components_join absolute]

/-- The targets that are promised to name a directory below the root. In a module these are the path
that imports it and all relative spellings but those that are import paths of directories
themselves; a module `m` with a directory `m` has one. Without a module it is the plain spelling,
which is the import path as well. -/
inductive Names (packages : PackageSource) (names : List String) : String → Prop where
  | importPath (count : Nat) :
      Names packages names (packages.layout.importPathOf (ofNames names) ++ slashes count)
  | plain (noModule : packages.layout.modulePath = none) (count : Nat) :
      Names packages names ((ofNames names).text ++ slashes count)
  | spelled {target : String} (spells : SpellsNames ⟨target⟩ names)
      (unclaimed : packages.dirOf? (withoutTrailingSlashes target) = none) :
      Names packages names target

section
variable {tree : FileTree} {sourceRoot root : Path} {modulePath : Option String}
  {names : List String}

/-- All targets that name a directory lead to it under its import path, so what is loaded, and with
it the full names of the package, is the same for all of them. -/
theorem load_names (sound : tree.Sound) (canonical : tree.canonical sourceRoot = .ok root)
    (isModule : ModuleFile.read tree sourceRoot = .ok modulePath) (areNames : AreNames names)
    (below : names ≠ []) (isDirectory : tree.isDirectory (root.join (ofNames names)) = true) :
    let packages : PackageSource := ⟨tree, ⟨root, modulePath⟩⟩
    let importPath := packages.layout.importPathOf (ofNames names)
    (∀ target, Names packages names target →
      locate packages target = .ok (root.join (ofNames names), importPath) ∧
        ∀ suffix, load tree sourceRoot target suffix = load tree sourceRoot importPath suffix) ∧
      ∀ target, SpellsNames ⟨target⟩ names → modulePath = none →
        ∃ dir path, locate packages target = .ok (dir, path) ∧
          dir.components = (root.join (ofNames names)).components := by
  intro packages importPath
  obtain ⟨place, entry, _, stands, rooted⟩ := FileTree.canonical_ok canonical
  have placeNames : AreNames place := fun name member =>
    Path.isName_of_isEntryName (sound.names stands name member)
  have found : packages.dirOf? importPath = some (root.join (ofNames names)) := by
    rw [PackageSource.dirOf?, relativeDir?_importPathOf areNames below]
    exact if_pos isDirectory
  have ends : importPath.endsWith "/" = false := endsWith_importPathOf areNames below packages.layout
  have located : ∀ target, Names packages names target →
      locate packages target = .ok (root.join (ofNames names), importPath) := by
    intro target isNamed
    cases isNamed with
    | importPath count => exact locate_of_dir (withoutTrailingSlashes_append ends count) found
    | plain noModule count =>
        have same : (ofNames names).text = importPath := by
          have path := importPathOf_ofNames areNames below packages.layout
          rw [noModule] at path
          exact path.symm
        rw [same]
        exact locate_of_dir (withoutTrailingSlashes_append ends count) found
    | spelled spells unclaimed =>
        exact locate_spelled rooted placeNames areNames below spells isDirectory unclaimed
  constructor
  · intro target isNamed
    refine ⟨located target isNamed, fun suffix => ?_⟩
    have itself : locate packages importPath = .ok (root.join (ofNames names), importPath) := by
      have bare := located _ (.importPath 0)
      rwa [show slashes 0 = "" from rfl, String.append_empty] at bare
    exact load_congr canonical isModule ((located target isNamed).trans itself.symm) suffix
  · intro target spells noModule
    -- The spelling itself is taken for an import path here, so the directory is not normalized.
    cases taken : packages.dirOf? (withoutTrailingSlashes target) with
    | none => exact ⟨_, _, located target (.spelled spells taken), rfl⟩
    | some dir =>
        have absolute : root.isAbsolute = true := by
          rw [rooted]
          exact FileTree.isAbsolute_pathOf place
        have trimmed := SpellsNames.trimmed below spells
        exact ⟨_, _, locate_of_dir rfl taken,
          components_of_dirOf? packages absolute noModule areNames trimmed taken⟩

end

/-! A module with a directory that is called like it -/

def nestedTree : FileTree where
  entries := [
    (["src"], .directory),
    (["src", "go.mod"], .file "module m\n".toUTF8),
    (["src", "p.go"], .file "package p\nfunc f() {}\n".toUTF8),
    (["src", "m"], .directory),
    (["src", "m", "q.go"], .file "package q\nfunc g() {}\n".toUTF8)]

theorem nestedTree_sound : nestedTree.Sound where
  distinct := by decide
  named := by decide
  closed := by
    simp only [nestedTree, List.forall_mem_cons]
    exact ⟨rfl, rfl, rfl, rfl, rfl, List.forall_mem_nil _⟩
  workDir := rfl

/-- With a `.` in front the directory is meant. -/
theorem load_names_nested :
    let packages : PackageSource := ⟨nestedTree, ⟨⟨"/src"⟩, some "m"⟩⟩
    nestedTree.Sound ∧ nestedTree.canonical ⟨"src"⟩ = .ok ⟨"/src"⟩ ∧
      ModuleFile.read nestedTree ⟨"src"⟩ = .ok (some "m") ∧ AreNames ["m"] ∧
      nestedTree.isDirectory ((⟨"/src"⟩ : Path).join (ofNames ["m"])) = true ∧
      Names packages ["m"] "./m//" ∧
      locate packages "./m//" = .ok ((⟨"/src"⟩ : Path).join (ofNames ["m"]), "m/m") ∧
      load nestedTree ⟨"src"⟩ "./m//" "_aspect.go" = load nestedTree ⟨"src"⟩ "m/m" "_aspect.go" := by
  intro packages
  have canonical : nestedTree.canonical ⟨"src"⟩ = .ok ⟨"/src"⟩ := ok_of_toOption (by decide +kernel)
  have isModule : ModuleFile.read nestedTree ⟨"src"⟩ = .ok (some "m") :=
    ok_of_toOption (by decide +kernel)
  have areNames : AreNames ["m"] := Path.areNames_singleton (by unfold Path.IsName; decide)
  have isDirectory : nestedTree.isDirectory ((⟨"/src"⟩ : Path).join (ofNames ["m"])) = true := by
    decide +kernel
  have isNamed : Names packages ["m"] "./m//" :=
    .spelled (by unfold SpellsNames; decide +kernel) (by decide +kernel)
  have importPath : packages.layout.importPathOf (ofNames ["m"]) = "m/m" := by decide +kernel
  obtain ⟨located, loaded⟩ := (load_names nestedTree_sound canonical isModule areNames (by decide)
    isDirectory).1 _ isNamed
  rw [importPath] at located
  have same := loaded "_aspect.go"
  rw [importPath] at same
  exact ⟨nestedTree_sound, canonical, isModule, areNames, isDirectory, isNamed, located, same⟩

/-- Without it the module is meant, whose import path is tried first. Without a module file the `.`
is kept in the import path. -/
theorem load_spellings_differ :
    let loaded (tree : FileTree) (target : String) : Option String :=
      (load tree ⟨"src"⟩ target "_aspect.go").toOption.map TargetPackage.path
    let bare : FileTree := { entries := nestedTree.entries.eraseIdx 1 }
    SpellsNames ⟨"m"⟩ ["m"] ∧ SpellsNames ⟨"./m"⟩ ["m"] ∧
      loaded nestedTree "m/m" = some "m/m" ∧ loaded nestedTree "m" = some "m" ∧
      loaded bare "m" = some "m" ∧ loaded bare "./m" = some "./m" := by
  unfold SpellsNames
  decide +kernel

end TargetPackage
end AspectLoom
