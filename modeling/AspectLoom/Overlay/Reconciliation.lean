import AspectLoom.Overlay.Written
/-!
Reconciliation of an overlay with its source tree. Every entry of the source tree that was not
written anew appears in the overlay as a link. A directory is walked only where a written path
lies below it, which bounds the walk even where links make the source tree a cycle.
-/
namespace AspectLoom

inductive SkipReason where
  | aspectUnit
  | written
  /-- Something stands in the overlay already. -/
  | present
  /-- The entry is the overlay itself. -/
  | overlayRoot
deriving DecidableEq, Repr

inductive Action where
  /-- Walk the directory. -/
  | descend
  | skip (reason : SkipReason)
  | link
deriving DecidableEq, Repr

namespace Action

def hasSuffix (suffix : String) (entry : Path) : Bool :=
  entry.fileName?.any fun name => name.endsWith suffix

/-- What to do with an entry, by its relative path, its kind and the overlay's state there. -/
def decide (written : Written) (suffix : String) (entry : Path) (isDirectory present : Bool) :
    Action :=
  if isDirectory && written.reaches entry then .descend
  else if !isDirectory && hasSuffix suffix entry then .skip .aspectUnit
  else if written.contains entry then .skip .written
  else if present then .skip .present
  else .link

end Action

structure ReconcileReport where
  /-- The links made, by their paths in the overlay. -/
  linked : List Path := []
  recursed : List Path := []
  skipped : List (Path × SkipReason) := []
deriving Repr, Inhabited

namespace ReconcileReport

def isNoop (report : ReconcileReport) : Bool := report.linked.isEmpty

end ReconcileReport

namespace Overlay

/-- A directory in the course of being walked. -/
structure Walk where
  overlay : Overlay
  written : Written
  suffix : String
  /-- The relative path of the directory. -/
  dir : Path

/-- What the walk has done so far, and whether the directory's own place in the overlay is ready. -/
structure WalkState where
  report : ReconcileReport := {}
  ready : Bool := false

abbrev WalkM := StateT WalkState (TreeM OverlayError)

def noteSkip (path : Path) (reason : SkipReason) : WalkM Unit :=
  modify fun state =>
    { state with
      report := { state.report with skipped := state.report.skipped ++ [(path, reason)] } }

def noteDescent (path : Path) : WalkM Unit :=
  modify fun state =>
    { state with report := { state.report with recursed := state.report.recursed ++ [path] } }

def noteLink (path : Path) : WalkM Unit :=
  modify fun state =>
    { state with report := { state.report with linked := state.report.linked ++ [path] } }

/-- Makes the walked directory a directory of the overlay, once. -/
def prepare (walk : Walk) : WalkM Unit := do
  if (← get).ready then return
  walk.overlay.ownDirectories (walk.overlay.ofRelative walk.dir)
  modify fun state => { state with ready := true }

/-- Whether a source entry is a directory; a link that leads nowhere counts as a plain entry. -/
def sourceIsDirectory (path : Path) : TreeM OverlayError Bool := fileStep path do
  let tree ← get
  match tree.target path with
  | .ok .directory => pure true
  | .ok _ => pure false
  | .error _ =>
    let _ ← TreeM.ask fun tree => tree.entryOf path
    pure false

/-- What to do with one entry of the walked directory. -/
def actionFor (walk : Walk) (source relative : Path) : TreeM OverlayError Action := do
  let isDirectory ← sourceIsDirectory source
  let present := (← look (walk.overlay.ofRelative relative)).isSome
  if source == walk.overlay.root then return .skip .overlayRoot
  return Action.decide walk.written walk.suffix relative isDirectory present

def makeLink (source path : Path) : TreeM OverlayError Unit :=
  fileStep path (TreeM.apply fun tree => tree.makeLink source.text path)

/-- Handles one entry; `descend` walks a directory below. -/
def visit (walk : Walk) (descend : Path → ReconcileReport → TreeM OverlayError ReconcileReport)
    (name : String) : WalkM Unit := do
  let source := (walk.overlay.sourceOf walk.dir).join ⟨name⟩
  let relative := walk.dir.join ⟨name⟩
  let path := walk.overlay.ofRelative relative
  match ← actionFor walk source relative with
  | .descend =>
    walk.overlay.ownDirectories path
    noteDescent relative
    let report ← descend relative (← get).report
    modify fun state => { state with report := report }
  | .skip reason => noteSkip relative reason
  | .link =>
    prepare walk
    makeLink source path
    noteLink path

def visitAll (walk : Walk)
    (descend : Path → ReconcileReport → TreeM OverlayError ReconcileReport) :
    List String → WalkM Unit
  | [] => pure ()
  | name :: names => do
    visit walk descend name
    visitAll walk descend names

/-- Walks a directory. Each level of the walk is one component further down a written path. -/
def walkDirectory (overlay : Overlay) (written : Written) (suffix : String) :
    Nat → Path → ReconcileReport → TreeM OverlayError ReconcileReport
  | 0, _, report => pure report
  | depth + 1, dir, report => do
    let source := overlay.sourceOf dir
    let names ← fileStep source (TreeM.ask fun tree => tree.list source)
    let (_, state) ← (visitAll ⟨overlay, written, suffix, dir⟩
      (walkDirectory overlay written suffix depth) names).run { report := report }
    pure state.report

/-- Links everything that was not written, and reports in the order of the walk. -/
def reconcile (overlay : Overlay) (written : Written) (suffix : String) :
    TreeM OverlayError ReconcileReport :=
  walkDirectory overlay written suffix (written.depth + 1) ⟨""⟩ {}

end Overlay
end AspectLoom
