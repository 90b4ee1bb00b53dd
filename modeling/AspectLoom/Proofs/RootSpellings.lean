import AspectLoom.Proofs.ReconciledOverlays
import AspectLoom.Proofs.SpelledPlaces
/-!
The roots of a weave and how they are spelled. The settings are checked for two roots that are the same
path; whether they are the same directory depends on where their spellings lead.
-/
namespace AspectLoom

open Actions

theorem FileTree.canonical_ok {tree : FileTree} {path canonical : Path}
    (found : tree.canonical path = .ok canonical) : ∃ place entry, tree.place true path = .ok place ∧
      tree.entryAt? place = some entry ∧ canonical = FileTree.pathOf place := by
  rw [FileTree.canonical] at found
  obtain ⟨place, placed, found⟩ := bind_ok found
  split at found
  · rename_i stands
    obtain ⟨entry, stands⟩ := Option.isSome_iff_exists.mp stands
    exact ⟨place, entry, placed, stands, (Except.ok.inj found).symm⟩
  · cases found

/-- Settings that pass are for two roots that are not the same path. -/
theorem WeaveConfig.components_ne_of_valid {config : WeaveConfig} {root : Path}
    (valid : config.validate = .ok ()) (given : config.overlayRoot = some root) :
    root.components ≠ config.sourceRoot.components := by
  intro same
  have equal : (root == config.sourceRoot) = true := Path.beq_iff.mpr same
  rw [validate, given] at valid
  split at valid
  · cases valid
  dsimp only at valid
  split at valid
  · cases valid
  · rw [if_pos equal] at valid
    cases valid
  · cases valid

namespace Weave

/-- The two roots of a weave are different directories exactly when their spellings lead to different
places, which spellings without `..` that begin alike do. Otherwise a file is written over itself. -/
theorem roots_differ_iff (config : WeaveConfig) (tree : FileTree) (root source : Path)
    (sound : tree.Sound) (noLinks : ∀ place target, tree.entryAt? place ≠ some (.link target))
    (valid : config.validate = .ok ()) (given : config.overlayRoot = some root)
    (found : tree.canonical config.sourceRoot = .ok source) :
    let overlay : Overlay := ⟨source, absolute tree root⟩
    tree.place true config.sourceRoot = .ok (tree.leadsTo overlay.sourceRoot) ∧
      (tree.leadsTo overlay.root ≠ tree.leadsTo overlay.sourceRoot ↔
        tree.leadsTo root ≠ tree.leadsTo config.sourceRoot) ∧
      (root.lead? = config.sourceRoot.lead? → .parent ∉ root.components →
        .parent ∉ config.sourceRoot.components →
          tree.leadsTo overlay.root ≠ tree.leadsTo overlay.sourceRoot) ∧
      ∀ file relative, overlay.relative file = .ok relative → relative.isPlain = true →
        (tree.leadsTo (overlay.ofRelative relative) ≠ tree.leadsTo file ↔
          tree.leadsTo overlay.root ≠ tree.leadsTo overlay.sourceRoot) := by
  intro overlay
  obtain ⟨place, entry, placed, stands, rfl⟩ := FileTree.canonical_ok found
  have areNames : Path.AreNames place := Ground.areNames_of_entries (sound.names stands)
  have sourcePlace : tree.leadsTo overlay.sourceRoot = place := FileTree.leadsTo_pathOf areNames
  have rootPlace : tree.leadsTo overlay.root = tree.leadsTo root := FileTree.leadsTo_absolute sound root
  have here : place = tree.leadsTo config.sourceRoot := FileTree.place_eq_leadsTo noLinks placed
  have spelled : tree.leadsTo overlay.root ≠ tree.leadsTo overlay.sourceRoot ↔
      tree.leadsTo root ≠ tree.leadsTo config.sourceRoot := by
    rw [sourcePlace, rootPlace, here]
  refine ⟨by rw [sourcePlace, placed], spelled, ?_, ?_⟩
  · intro alike rootDown sourceDown
    rw [spelled, Ne, FileTree.leadsTo_eq_iff alike rootDown sourceDown]
    exact config.components_ne_of_valid valid given
  · intro file relative split plain
    have below : overlay.sourceRoot.relativeTo? file = some relative := by
      rw [Overlay.relative] at split
      split at split
      · rename_i below
        exact below.trans (congrArg some (Except.ok.inj split))
      · cases split
    have original : tree.leadsTo file = tree.leadsTo overlay.sourceRoot ++ relative.names := by
      rw [FileTree.leadsTo_eq_foldl, Path.components_relativeTo? below, Path.components_of_isPlain plain,
        List.foldl_append, Component.foldl_leads_names, FileTree.leadsTo_eq_foldl]
    have counterpart : tree.leadsTo (overlay.ofRelative relative) =
        tree.leadsTo overlay.root ++ relative.names := by
      rw [FileTree.leadsTo_eq_foldl, Overlay.ofRelative, Path.components_join_plain plain,
        List.foldl_append, Component.foldl_leads_names, FileTree.leadsTo_eq_foldl]
    rw [original, counterpart, Ne, Ne, List.append_left_inj]

end Weave

/-- A module with one unit and a specification beside it. -/
def moduleTree : FileTree where
  entries := [
    (["src"], .directory),
    (["src", "go.mod"], .file "module m\n".toUTF8),
    (["src", "main.go"], .file "package main\n\nfunc f() {}\n\nfunc main() { f() }\n".toUTF8),
    (["spec.yaml"], .file "aspects:\n  - advice: A\n    pointcut: 'm\\.f'\n".toUTF8)]

def moduleConfig (overlayRoot : String) : WeaveConfig where
  sourceRoot := ⟨"src"⟩
  overlayRoot := some ⟨overlayRoot⟩
  target := some "."
  aspectFiles := [⟨"spec.yaml"⟩]

theorem moduleTree_sound : moduleTree.Sound where
  distinct := by decide
  named := by decide
  closed := by
    simp only [moduleTree, List.forall_mem_cons]
    exact ⟨rfl, rfl, rfl, rfl, List.forall_mem_nil _⟩
  workDir := rfl

theorem moduleTree_noLink (place : Place) (target : String) :
    moduleTree.entryAt? place ≠ some (.link target) :=
  FileTree.noLink_of_entries (by simp [moduleTree]) place target

namespace Weave

theorem roots_differ_iff_out :
    moduleTree.leadsTo (absolute moduleTree ⟨"out"⟩) ≠ moduleTree.leadsTo ⟨"/src"⟩ := by
  have found : moduleTree.canonical (moduleConfig "out").sourceRoot = .ok ⟨"/src"⟩ :=
    ok_of_toOption (by decide +kernel)
  exact (roots_differ_iff (moduleConfig "out") moduleTree ⟨"out"⟩ ⟨"/src"⟩ moduleTree_sound
    moduleTree_noLink (ok_of_toOption (by decide +kernel)) rfl found).2.2.1
      (by decide +kernel) (by decide +kernel) (by decide +kernel)

/-- A second spelling of the source root passes, and a unit is written over its own original. -/
theorem run_over_original :
    moduleTree.Sound ∧ (∀ place target, moduleTree.entryAt? place ≠ some (.link target)) ∧
      (moduleConfig "./src").validate = .ok () ∧
      ∃ outcome after, runFrom (run (moduleConfig "./src")) moduleTree = (.ok outcome, after) ∧
        outcome.written = [⟨"/./src/main.go"⟩] ∧
        after.entryAt? ["src", "main.go"] ≠ moduleTree.entryAt? ["src", "main.go"] := by
  refine ⟨moduleTree_sound, moduleTree_noLink, ok_of_toOption (by decide +kernel), ?_⟩
  have ran : (runFrom (run (moduleConfig "./src")) moduleTree).1.toOption.map WeaveOutcome.written =
        some [⟨"/./src/main.go"⟩] ∧
      (leaves (run (moduleConfig "./src")) moduleTree).entryAt? ["src", "main.go"] ≠
        moduleTree.entryAt? ["src", "main.go"] := by decide +kernel
  obtain ⟨outcome, same, written⟩ := runFrom_of_view ran.1
  exact ⟨outcome, _, same, written, ran.2⟩

end Weave
end AspectLoom
