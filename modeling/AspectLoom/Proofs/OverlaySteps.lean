import AspectLoom.Proofs.ReconcileSteps
import AspectLoom.Weave.WovenUnit
/-!
Runs of steps over an overlay. Whatever stands in the overlay, whatever the steps are and whichever of
them fail, nothing outside the overlay changes but that the way to its root is made.
-/
namespace AspectLoom

open Actions
open FileTree (IsStep isEntryName)

/-! The ground of a root without links -/

namespace Ground

/-- Where segments lead that cross no links. -/
def direct (place : Place) : List String → Ground
  | [] => ⟨place, [], []⟩
  | segment :: rest =>
    if segment = "." then direct place rest
    else if segment = ".." then direct place.dropLast rest
    else
      let ground := direct (place ++ [segment]) rest
      { ground with entered := (place ++ [segment]) :: ground.entered }

/-- The ground of a root that is reached without links. -/
def ofRoot (tree : FileTree) (root : Path) : Ground := direct (tree.startOf root) root.segments

variable {tree : FileTree} {place : Place} {segments : List String}

theorem direct_crossed (place : Place) (segments : List String) :
    (direct place segments).crossed = [] := by
  induction segments generalizing place with
  | nil => rfl
  | cons segment rest ih =>
      rw [direct]
      split
      · exact ih _
      · split
        · exact ih _
        · exact ih _

theorem direct_way
    (noLinks : ∀ entered ∈ (direct place segments).entered, ∀ target,
      tree.entryAt? entered ≠ some (.link target)) :
    tree.Way place segments (direct place segments).place (direct place segments).entered [] := by
  induction segments generalizing place with
  | nil => exact .stay place
  | cons segment rest ih =>
      rw [direct] at noLinks ⊢
      split
      · rename_i here
        subst here
        rw [if_pos rfl] at noLinks
        exact .here (ih noLinks)
      · rename_i notHere
        rw [if_neg notHere] at noLinks
        split
        · rename_i up
          subst up
          rw [if_pos rfl] at noLinks
          exact .up (ih noLinks)
        · rename_i notUp
          rw [if_neg notUp] at noLinks
          obtain ⟨first, others⟩ := List.forall_mem_cons.mp noLinks
          exact .into ⟨notHere, notUp⟩ first (ih others)

/-- A root that is reached without links has its ground. -/
theorem ofRoot_stands {root : Path} (sound : tree.Sound)
    (noLinks : ∀ entered ∈ (ofRoot tree root).entered, ∀ target,
      tree.entryAt? entered ≠ some (.link target)) : (ofRoot tree root).Stands root tree := by
  have none : (ofRoot tree root).crossed = [] := direct_crossed _ _
  refine ⟨sound, ?_, ?_, ?_⟩
  · rw [none]
    exact direct_way noLinks
  · rw [none]
    exact List.forall_mem_nil _
  · rw [none]
    exact Nat.zero_le _

example : ofRoot {} ⟨"/x/../out"⟩ = ⟨["out"], [["x"], ["out"]], []⟩ := by decide +kernel

end Ground

/-! Steps -/

/-- What can be done over an overlay. -/
inductive OverlayStep where
  | write (relative : Path) (text : String)
  | materialize (woven : WovenUnit)
  /-- Links what is not in the given set or, where none is given, not written in this run. -/
  | reconcile (written : Option Written) (suffix : String)

namespace OverlayStep

variable {overlay : Overlay} {ground : Ground} {state : Written × FileTree}

/-- A file written in a run. A failure keeps what it did to the tree. -/
def writing (overlay : Overlay) (relative : Path) (text : String) (state : Written × FileTree) :
    Written × FileTree :=
  match runFrom ((overlay.write relative text).run state.1) state.2 with
  | (.ok (_, written), tree) => (written, tree)
  | (.error _, tree) => (state.1, tree)

def run (overlay : Overlay) (state : Written × FileTree) : OverlayStep → Written × FileTree
  | .write relative text => writing overlay relative text state
  | .materialize woven =>
    match overlay.relative woven.path with
    | .ok relative => writing overlay relative woven.fileText state
    | .error _ => state
  | .reconcile written suffix =>
    (state.1, leaves (overlay.reconcile (written.getD state.1) suffix) state.2)

def runAll (overlay : Overlay) (steps : List OverlayStep) (state : Written × FileTree) :
    Written × FileTree := steps.foldl (run overlay) state

/-- The relative path of a file that is written consists of names. -/
def isPlain (overlay : Overlay) : OverlayStep → Bool
  | .write relative _ => relative.isPlain
  | .materialize woven =>
    match overlay.relative woven.path with
    | .ok relative => relative.isPlain
    | .error _ => true
  | .reconcile _ _ => true

theorem writing_spares (stands : ground.Stands overlay.root state.2) {relative : Path}
    (plain : relative.isPlain = true) (text : String) :
    ground.Spares state.2 (writing overlay relative text state).2 := by
  have ends := Ground.write_ends stands plain text state.1
  rw [writing]
  split
  · rename_i written tree ran
    rcases ends.of_ok ran with ⟨_, _, rfl⟩ | ⟨_, _, takes⟩
    · exact Ground.Spares.refl _ _
    · exact takes.spares
  · rename_i cause tree ran
    exact ends.of_error ran

theorem run_spares (stands : ground.Stands overlay.root state.2) (step : OverlayStep)
    (plain : step.isPlain overlay = true) : ground.Spares state.2 (step.run overlay state).2 := by
  cases step with
  | write relative text => exact writing_spares stands plain text
  | materialize woven =>
      rw [isPlain] at plain
      rw [run]
      split
      · rename_i relative seen
        rw [seen] at plain
        exact writing_spares stands plain woven.fileText
      · exact Ground.Spares.refl _ _
  | reconcile written suffix =>
      exact (Ground.reconcile_ends stands (written.getD state.1) suffix).leaves (fun _ _ => id)
        fun _ => id

theorem runAll_spares (stands : ground.Stands overlay.root state.2) (steps : List OverlayStep)
    (plain : ∀ step ∈ steps, step.isPlain overlay = true) :
    ground.Spares state.2 (runAll overlay steps state).2 := by
  induction steps generalizing state with
  | nil => exact Ground.Spares.refl _ _
  | cons step steps ih =>
      obtain ⟨first, others⟩ := List.forall_mem_cons.mp plain
      have spares := run_spares stands step first
      exact spares.trans (ih (stands.later spares) others)

end OverlayStep

/-- A package and an overlay that an earlier run has left with a link to it. -/
def staleTree : FileTree where
  entries := [
    (["src"], .directory),
    (["src", "pkg"], .directory),
    (["src", "pkg", "main.go"], .file "package pkg\n".toUTF8),
    (["out"], .directory),
    (["out", "pkg"], .link "/src/pkg")]

def staleOverlay : Overlay := ⟨⟨"/src"⟩, ⟨"/out"⟩⟩

theorem staleTree_sound : staleTree.Sound where
  distinct := by decide
  named := by decide
  closed := by
    simp only [staleTree, List.forall_mem_cons]
    exact ⟨rfl, rfl, rfl, rfl, rfl, List.forall_mem_nil _⟩
  workDir := rfl

end AspectLoom
