import AspectLoom.Data.JsonValue
import AspectLoom.Overlay.AdviceUnit
import AspectLoom.Overlay.Reconciliation
import AspectLoom.Weave.Config
import AspectLoom.Weave.WovenUnit
/-!
A whole weave: the specification and the target package are read, the join points found, the advice
unit and the woven units written into the overlay, and the rest of the source tree linked there.
Without join points nothing is written. The first failure ends the weave; what was written stays.
-/
namespace AspectLoom

inductive WeaveError where
  | configuration (cause : ConfigError)
  | aspect (cause : AspectError)
  | load (cause : LoadError)
  | unit (cause : UnitError)
  | overlay (cause : OverlayError)
deriving Repr

namespace WeaveError

def message : WeaveError → String
  | configuration cause => "configuration error: " ++ cause.message
  | aspect cause => "aspect specification error: " ++ cause.message
  | load cause => "load error: " ++ cause.message
  | unit cause => "rewrite error: " ++ cause.message
  | overlay cause => "filesystem error: " ++ cause.message

/-- Whether the failure comes before the target package is read. -/
def isConfiguration : WeaveError → Bool
  | configuration _ | aspect _ => true
  | _ => false

end WeaveError

structure WeaveOutcome where
  /-- The files that were written into the overlay. -/
  written : List Path := []
  report : ReconcileReport := {}
  diagnostics : List Diagnostic := []
  joinPoints : Nat := 0
deriving Inhabited

namespace WeaveOutcome

def isNothingToDo (outcome : WeaveOutcome) : Bool := outcome.joinPoints == 0

end WeaveOutcome

/-! The steps -/

abbrev WeaveM := TreeM WeaveError

namespace Weave

def lift {ε α : Type} (wrap : ε → WeaveError) : Except ε α → WeaveM α
  | .ok value => pure value
  | .error cause => throw (wrap cause)

/-- What a valid configuration gives. -/
structure Plan where
  config : WeaveConfig
  target : String
  overlayRoot : Path
  aspectFile : Path

def plan (config : WeaveConfig) : Except ConfigError Plan := do
  config.validate
  match config.target, config.overlayRoot, config.aspectFiles with
  | some target, some root, [file] => return ⟨config, target, root, file⟩
  | _, _, _ => throw .missingTarget

/-- What is known once the join points are found. -/
structure Work where
  plan : Plan
  spec : AspectSpec
  package : TargetPackage
  points : JoinPoints
  overlay : Overlay

namespace Work

def advicePackage (work : Work) : String :=
  work.plan.config.advicePackage.getD work.spec.advicePackageName

def imports (work : Work) : ProxyImports :=
  let standard := ProxyImports.forLayout work.package.layout work.advicePackage
  { runtime := work.plan.config.runtime
    advice :=
      { standard.advice with «alias» := work.plan.config.adviceAlias.getD standard.advice.alias } }

/-- The directory of the advice package relative to the overlay's root. -/
def adviceDir (work : Work) : Path :=
  (work.package.layout.relativeDir? work.imports.advice.path).getD ⟨work.advicePackage⟩

end Work

/-- A part of a weave that writes files into the overlay. -/
abbrev WriteM := StateT Written WeaveM

def write (work : Work) (relative : Path) (text : String) : WriteM Unit := do
  let step := (work.overlay.write relative text).run (← get)
  let (_, written) ← TreeM.mapError WeaveError.overlay step
  set written

/-- Writes the unit that declares the advice. -/
def writeAdvice (work : Work) : WriteM Unit := do
  match work.spec.adviceSource with
  | none => return
  | some source =>
    let tree ← getThe FileTree
    let text ← lift .overlay (Overlay.adviceText tree source work.advicePackage)
    match source.fileName? with
    | none => return
    | some name => write work (work.adviceDir.join ⟨name⟩) text

/-- Weaves one unit and writes it at its place in the overlay. -/
def writeUnit (work : Work) (session : WeaveSession) (unit : CompilationUnit) :
    WriteM WeaveSession := do
  let points := work.points.ofUnit unit.id
  let (outcome, session) := WovenUnit.weave work.package work.imports unit points session
  match ← lift .unit outcome with
  | none => return session
  | some woven =>
    let relative ← lift .overlay (work.overlay.relative woven.path)
    write work relative woven.fileText
    return session

def writeUnits (work : Work) : WeaveSession → List CompilationUnit → WriteM Unit
  | _, [] => return
  | session, unit :: units => do
    let session ← writeUnit work session unit
    writeUnits work session units

def writeAll (work : Work) : WriteM Unit := do
  writeAdvice work
  writeUnits work ⟨{ scheme := work.plan.config.naming }, []⟩ work.package.wovenUnits

/-- Writes and links everything. -/
def finish (work : Work) : WeaveM WeaveOutcome := do
  let (_, written) ← (writeAll work).run {}
  let report ← TreeM.mapError WeaveError.overlay
    (work.overlay.reconcile written work.plan.config.aspectSuffix)
  return {
    written := written.sorted.map work.overlay.ofRelative
    report := report
    diagnostics := work.points.findings
    joinPoints := work.points.size }

/-- The overlay's root, seen from the working directory. -/
def absolute (tree : FileTree) (path : Path) : Path :=
  if path.isAbsolute then path else (FileTree.pathOf tree.workDir).join path

/-- Reads what a plan names and finds the join points. -/
def prepare (plan : Plan) : WeaveM Work := do
  let tree ← get
  let spec ← lift .aspect (AspectSpec.load tree plan.aspectFile)
  let package ← lift .load
    (TargetPackage.load tree plan.config.sourceRoot plan.target plan.config.aspectSuffix)
  let overlay : Overlay := ⟨package.layout.root, absolute tree plan.overlayRoot⟩
  return ⟨plan, spec, package, JoinPoints.ofSpec spec package, overlay⟩

/-- Runs a weave as it is configured. -/
def run (config : WeaveConfig) : WeaveM WeaveOutcome := do
  let work ← prepare (← lift .configuration (plan config))
  if work.points.isEmpty then return { diagnostics := work.points.findings }
  finish work

end Weave
end AspectLoom
