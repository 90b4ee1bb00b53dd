import AspectLoom.Proofs.OverlayBounds
import AspectLoom.Proofs.SourceReads
import AspectLoom.Proofs.WrittenAgain
/-!
Weaving again. A weave whose source tree does not lead into the overlay finds the same the second time:
it writes the same files as they are, finds every link made and leaves all as it was.
-/
namespace AspectLoom

open Actions
open FileTree (isEntryName)

/-! Finding the same -/

namespace Ground

open Weave (Plan Work Prepares adviceFile output)

variable {ground : Ground} {tree after : FileTree} {plan : Plan} {work : Work}
  (sound : tree.Sound) (spares : ground.Spares tree after)
include sound spares

/-- A specification is loaded again. -/
theorem spec_again {path : Path} {spec : AspectSpec} (outside : ground.Outside tree path)
    (loads : AspectSpec.load tree path = .ok spec) : AspectSpec.load after path = .ok spec := by
  cases read : tree.readText path with
  | error cause =>
      rw [AspectSpec.load, read] at loads
      split at loads <;> cases loads
  | ok text =>
      rw [AspectSpec.load, (outside.clear read).readText sound spares]
      exact loads

/-- The advice unit is had again. -/
theorem adviceFile_again {file : Option (Path × String)}
    (outside : ∀ source, work.spec.adviceSource = some source → ground.Outside tree source)
    (has : adviceFile work tree = .ok file) : adviceFile work after = .ok file := by
  rw [adviceFile] at has ⊢
  cases given : work.spec.adviceSource with
  | none =>
      rw [given] at has
      exact has
  | some source =>
      rw [given] at has
      dsimp only at has ⊢
      cases read : tree.readText source with
      | error cause =>
          rw [Overlay.adviceText, read] at has
          cases has
      | ok text =>
          have again := ((outside source given).clear read).readText sound spares
          rw [Overlay.adviceText] at has ⊢
          rwa [again]

/-- The files are the same. -/
theorem output_again
    (outside : ∀ source, work.spec.adviceSource = some source → ground.Outside tree source)
    (succeeds : (output work tree).failure = none) : output work after = output work tree := by
  rw [output, Weave.Output.failure_behind] at succeeds
  obtain ⟨⟨file, has⟩, _⟩ := succeeds
  rw [output, output, has, adviceFile_again sound spares outside has]

/-- A weave is prepared alike. -/
theorem prepares_again (prepares : Prepares plan tree work)
    (outside : ground.Outside tree plan.aspectFile)
    (configured : ground.Secludes plan.config.sourceRoot tree)
    (clear : ground.AllClear tree (TargetPackage.Reads ⟨tree, work.package.layout⟩ plan.target
      plan.config.aspectSuffix)) : Prepares plan after work := by
  have goMod : Path.IsName "go.mod" := Path.isName_of_isEntryName (by decide)
  have absolute : Weave.absolute after plan.overlayRoot = Weave.absolute tree plan.overlayRoot := by
    rw [Weave.absolute, Weave.absolute, spares.workDir]
  exact {
    planned := prepares.planned
    spec := spec_again sound spares outside prepares.spec
    package := load_again sound spares configured.clear_root (configured.clear_file goMod)
      prepares.package clear
    points := prepares.points
    overlay := absolute ▸ prepares.overlay }

end Ground

/-- A weave whose source stays off an overlay is prepared for alike. -/
theorem Weave.prepare_again {ground : Ground} {plan : Plan} {work : Work} {tree after : FileTree}
    (sound : tree.Sound) (spares : ground.Spares tree after)
    (prepared : runFrom (prepare plan) tree = (.ok work, tree))
    (secluded : ∀ root ∈ [plan.config.sourceRoot, work.overlay.sourceRoot], ground.Secludes root tree)
    (below : TargetPackage.IsBelow work.package.layout plan.target)
    (imports : ∀ importPaths, TargetPackage.lookups ⟨tree, work.package.layout⟩ plan.target
      plan.config.aspectSuffix = .ok importPaths → ∀ importPath ∈ importPaths,
        ground.AllClear tree (PackageSource.Reads ⟨tree, work.package.layout⟩ importPath))
    (outside : ground.Outside tree plan.aspectFile) :
    runFrom (prepare plan) after = (.ok work, after) := by
  obtain ⟨prepares, _⟩ := prepare_ok_iff.mp prepared
  have secludes : ground.Secludes work.package.layout.root tree := by
    have source : work.overlay.sourceRoot = work.package.layout.root := by rw [prepares.overlay]
    exact source ▸ secluded _ (List.mem_cons_of_mem _ List.mem_cons_self)
  obtain ⟨canonical, _⟩ := TargetPackage.load_units sound prepares.package
  refine prepare_ok_iff.mpr ⟨Ground.prepares_again sound spares prepares outside
    (secluded _ List.mem_cons_self) ?_, rfl⟩
  exact Ground.Secludes.clear_target ⟨tree, work.package.layout⟩ secludes sound canonical below imports

/-! Where its files are -/

theorem Path.isPlain_name {name : String} (isName : IsName name) : isPlain ⟨name⟩ = true := by
  rw [isPlain, components_name isName]
  rfl

theorem Text.stripStart?_append (start rest : String) : stripStart? start (start ++ rest) = some rest := by
  simp [stripStart?]

/-- The import path of a package directly below the root names a directory there. -/
theorem Layout.isPlain_relativeDir {layout : Layout} {name : String} {relative : Path}
    (isName : Path.IsName name) (found : layout.relativeDir? (layout.importPathFor name) = some relative) :
    relative.isPlain = true := by
  rw [relativeDir?, importPathFor] at found
  cases module : layout.modulePath with
  | none =>
      rw [module] at found
      cases found
      exact Path.isPlain_name isName
  | some modulePath =>
      rw [module] at found
      dsimp only at found
      split at found
      · cases found
        decide
      · rw [Text.stripStart?_append] at found
        cases found
        exact Path.isPlain_name isName

namespace Weave

variable {config : WeaveConfig} {plan : Plan} {work : Work} {tree after : FileTree}
  {outcome : WeaveOutcome}

theorem isPlain_adviceDir (isName : Path.IsName work.advicePackage) : work.adviceDir.isPlain = true := by
  rw [Work.adviceDir]
  cases found : work.package.layout.relativeDir? work.imports.advice.path with
  | none => exact Path.isPlain_name isName
  | some relative => exact Layout.isPlain_relativeDir isName found

/-- The directory of the target has a plain path below the source root. -/
theorem isPlain_relative {dir seen : Path} {path : String} (sound : tree.Sound)
    (prepares : Prepares plan tree work)
    (below : TargetPackage.IsBelow work.package.layout plan.target)
    (located : TargetPackage.locate ⟨tree, work.package.layout⟩ plan.target = .ok (dir, path))
    (found : work.overlay.relative dir = .ok seen) : seen.isPlain = true := by
  obtain ⟨canonical, _⟩ := TargetPackage.load_units sound prepares.package
  obtain ⟨relative, seenDown, plain⟩ :=
    TargetPackage.locate_goesDown ⟨tree, work.package.layout⟩ sound canonical below located
  rw [prepares.overlay, Overlay.relative_ok_iff] at found
  cases seenDown.symm.trans found
  exact plain

/-- All that is written is below the overlay's root by its path. -/
theorem isPlain_of_prepares (sound : tree.Sound) (prepares : Prepares plan tree work)
    (below : TargetPackage.IsBelow work.package.layout plan.target)
    (isName : Path.IsName work.advicePackage) :
    ∀ file ∈ (output work tree).files, file.1.isPlain = true := by
  obtain ⟨_, dir, path, located, _, own⟩ := TargetPackage.load_units sound prepares.package
  refine fun file => isPlain_of_mem_output own (fun _ => isPlain_adviceDir isName) ?_
  exact fun seen => isPlain_relative sound prepares below located

end Weave

/-! Doing the same -/

namespace Ground

open Weave (Work output finish)

variable {ground : Ground} {work : Work} {tree after : FileTree} {outcome : WeaveOutcome}

/-- The work of a weave is done again to no effect. -/
theorem finish_again (stands : ground.Stands work.overlay.root tree)
    (plain : ∀ file ∈ (output work tree).files, file.1.isPlain = true)
    (secludes : ground.Secludes work.overlay.sourceRoot tree)
    (same : output work after = output work tree)
    (ran : runFrom (finish work) tree = (.ok outcome, after)) :
    ∃ again, runFrom (finish work) after = (.ok { outcome with report := again }, after) ∧
      again.linked = [] ∧ again.recursed = outcome.report.recursed := by
  obtain ⟨written, middle, report, succeeds, wrote, linked, rfl⟩ := Weave.finish_ok_iff.mp ran
  have spares := (writeAll_ends stands plain {}).of_ok wrote
  have apart : ground.Apart work.overlay written middle := by
    intro dir name walked isName
    have start : middle.startOf work.overlay.sourceRoot = tree.startOf work.overlay.sourceRoot := by
      rw [FileTree.startOf, FileTree.startOf, spares.workDir]
    rw [start]
    exact (secludes.apart written dir name walked isName).later spares
  obtain ⟨keeps, again, linkedAgain, none, recursed⟩ :=
    reconcile_again (stands.later spares) apart linked
  have wroteAgain := writeAll_again stands keeps plain (Holds.empty tree) wrote
  refine ⟨again, Weave.finish_ok_iff.mpr
    ⟨written, after, again, same ▸ succeeds, same ▸ wroteAgain, linkedAgain, rfl⟩, none, recursed⟩

end Ground

namespace Weave

end Weave

/-- In a tree without links a directory is secluded from an overlay that neither holds it nor is in it. -/
theorem Ground.ofRoot_secludes {ground : Ground} {root : Path} {place : Place} {entered : List Place}
    {tree : FileTree} (sound : tree.Sound)
    (noLink : ∀ place target, tree.entryAt? place ≠ some (.link target))
    (spelled : ofRoot tree root = ⟨place, entered, []⟩)
    (found : ∀ place ∈ entered, tree.entryAt? place = some .directory)
    (notAbove : ¬ place <+: ground.place) (notBelow : ¬ ground.place <+: place)
    (made : ∀ below ∈ ground.entered, place <+: below → tree.entryAt? below ≠ none) :
    ground.Secludes root tree := by
  have stands : (ofRoot tree root).Stands root tree := ofRoot_stands sound fun place _ => noLink place
  have way := stands.way
  rw [spelled] at way
  exact secludes_of_no_links way found (fun below _ => noLink below) notAbove notBelow made

namespace Weave

end Weave

/-- A module whose unit imports two packages that are not there before an overlay is: one behind a link of
the source that leads over a missing directory, one in the overlay itself. The advice has the unit's name,
and takes its place. -/
def importingTree : FileTree where
  entries := [
    (["src"], .directory),
    (["src", "go.mod"], .file "module m\n".toUTF8),
    (["src", "l"], .link "/x/../src/z"),
    (["src", "p"], .directory),
    (["src", "p", "p.go"], .file ("package p\nimport a \"m/l\"\nimport b \"m/../x/o/z\"\n" ++
      "func f() {}\nfunc g() { f(); a.F(); b.F() }\n").toUTF8),
    (["src", "z"], .directory),
    (["src", "z", "z.go"], .file "package z\nfunc F() {}\n".toUTF8),
    (["p.go"], .file "package a\ntype A struct{}\n".toUTF8),
    (["spec.yaml"], .file
      "advice_source: p.go\nadvice_package: p\naspects:\n- advice: A\n  pointcut: .*\n".toUTF8)]

def importingConfig : WeaveConfig := { moduleConfig "x/o" with target := some "p" }

theorem importingTree_sound : importingTree.Sound where
  distinct := by decide
  named := by decide
  closed := by
    simp only [importingTree, List.forall_mem_cons]
    exact ⟨rfl, rfl, rfl, rfl, rfl, rfl, rfl, rfl, rfl, List.forall_mem_nil _⟩
  workDir := rfl

theorem importingTree_links {below : Place} {target : String}
    (link : importingTree.entryAt? below = some (.link target)) : below = ["src", "l"] := by
  have member := FileTree.mem_entries (by rintro rfl; cases link) link
  simp only [importingTree, List.mem_cons, Prod.mk.injEq, reduceCtorEq, and_false, List.not_mem_nil,
    false_or, or_false] at member
  exact member.1

namespace Weave

end Weave
end AspectLoom
