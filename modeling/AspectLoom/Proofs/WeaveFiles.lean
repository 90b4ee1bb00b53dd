import AspectLoom.Proofs.WrittenFiles
import AspectLoom.Weave.Outcome
/-!
The files of a weave. What is written is settled before the overlay is touched: the advice unit, then the
woven units in order, up to the first one that cannot be had.
-/
namespace AspectLoom

open Actions

namespace Weave

/-- Files in the order of their writing, and the failure that keeps more from being written. -/
structure Output where
  files : List (Path × String) := []
  failure : Option WeaveError := none

namespace Output

/-- What comes of a file, if there is one, before others. -/
def behind (first : Except WeaveError (Option (Path × String))) (rest : Output) : Output :=
  match first with
  | .error cause => ⟨[], some cause⟩
  | .ok file => ⟨file.toList ++ rest.files, rest.failure⟩

/-- How a weave goes on when its files are written. -/
def ended (output : Output) : WriteM Unit :=
  match output.failure with
  | none => pure ()
  | some cause => throw cause

def write (work : Work) (output : Output) : WriteM Unit := do
  output.files.forM fun file => Weave.write work file.1 file.2
  output.ended

theorem write_failed (work : Work) (cause : WeaveError) (rest : Output) :
    write work (behind (.error cause) rest) = throw cause := by
  simp [write, behind, ended]

theorem write_nothing (work : Work) (rest : Output) :
    write work (behind (.ok none) rest) = write work rest := rfl

theorem write_file (work : Work) (file : Path × String) (rest : Output) :
    write work (behind (.ok (some file)) rest) =
      Weave.write work file.1 file.2 >>= fun _ => write work rest := by
  simp [write, behind, ended]

theorem mem_behind {first : Except WeaveError (Option (Path × String))} {rest : Output}
    {file : Path × String} : file ∈ (behind first rest).files ↔
      ∃ given, first = .ok given ∧ (given = some file ∨ file ∈ rest.files) := by
  cases first with
  | error cause => simp [behind]
  | ok given => simp [behind]

theorem failure_behind {first : Except WeaveError (Option (Path × String))} {rest : Output} :
    (behind first rest).failure = none ↔ (∃ given, first = .ok given) ∧ rest.failure = none := by
  cases first with
  | error cause => simp [behind]
  | ok given => simp [behind]

end Output

/-- The file of the advice unit, with its path in the overlay. -/
def adviceFile (work : Work) (tree : FileTree) : Except WeaveError (Option (Path × String)) :=
  match work.spec.adviceSource with
  | none => .ok none
  | some source =>
    match Overlay.adviceText tree source work.advicePackage with
    | .error cause => .error (.overlay cause)
    | .ok text => .ok (source.fileName?.map fun name => (work.adviceDir.join ⟨name⟩, text))

/-- A unit as it is woven, with the session behind it. -/
def weaving (work : Work) (session : WeaveSession) (unit : CompilationUnit) :
    Except UnitError (Option WovenUnit) × WeaveSession :=
  WovenUnit.weave work.package work.imports unit (work.points.ofUnit unit.id) session

def unitFile (work : Work) (session : WeaveSession) (unit : CompilationUnit) :
    Except WeaveError (Option (Path × String)) :=
  match (weaving work session unit).1 with
  | .error cause => .error (.unit cause)
  | .ok none => .ok none
  | .ok (some woven) =>
    match work.overlay.relative woven.path with
    | .error cause => .error (.overlay cause)
    | .ok relative => .ok (some (relative, woven.fileText))

def unitOutput (work : Work) : WeaveSession → List CompilationUnit → Output
  | _, [] => {}
  | session, unit :: units =>
    .behind (unitFile work session unit) (unitOutput work (weaving work session unit).2 units)

def output (work : Work) (tree : FileTree) : Output :=
  .behind (adviceFile work tree)
    (unitOutput work ⟨{ scheme := work.plan.config.naming }, []⟩ work.package.wovenUnits)

/-- To weave a unit is to have its file and to write it. -/
theorem writeUnit_eq (work : Work) (session : WeaveSession) (unit : CompilationUnit) :
    writeUnit work session unit =
      match unitFile work session unit with
      | .error cause => throw cause
      | .ok none => pure (weaving work session unit).2
      | .ok (some file) =>
        write work file.1 file.2 >>= fun _ => pure (weaving work session unit).2 := by
  rw [writeUnit, unitFile, weaving]
  rcases WovenUnit.weave work.package work.imports unit (work.points.ofUnit unit.id) session with
    ⟨outcome, after⟩
  rcases outcome with cause | _ | woven
  · rfl
  · rfl
  · change (liftM (lift .overlay (work.overlay.relative woven.path)) >>= fun relative =>
      write work relative woven.fileText >>= fun _ => pure after) = _
    dsimp only
    cases work.overlay.relative woven.path with
    | error cause => rfl
    | ok relative => rfl

theorem writeUnits_eq (work : Work) (session : WeaveSession) (units : List CompilationUnit) :
    writeUnits work session units = (unitOutput work session units).write work := by
  induction units generalizing session with
  | nil => rfl
  | cons unit units ih =>
      rw [writeUnits, writeUnit_eq, unitOutput]
      rcases unitFile work session unit with cause | _ | file
      · exact (Output.write_failed work cause _).symm
      · exact ih _
      · rw [Output.write_file, ← ih, bind_assoc]
        rfl

theorem runFrom_writeAdvice (work : Work) (written : Written) (tree : FileTree) :
    runFrom ((writeAdvice work).run written) tree =
      match adviceFile work tree with
      | .error cause => (.error cause, tree)
      | .ok none => (.ok ((), written), tree)
      | .ok (some file) => runFrom ((write work file.1 file.2).run written) tree := by
  rw [writeAdvice, adviceFile]
  cases work.spec.adviceSource with
  | none => rfl
  | some source =>
      have reads : runFrom ((getThe FileTree : WriteM FileTree).run written) tree =
          (.ok (tree, written), tree) := rfl
      dsimp only
      rw [StateT.run_bind, runFrom_bind_of_ok reads]
      cases Overlay.adviceText tree source work.advicePackage with
      | error cause => rfl
      | ok text =>
          cases source.fileName? with
          | none => rfl
          | some name => rfl

/-- The files of a weave are written from the first on, up to its failure. -/
theorem runFrom_writeAll (work : Work) (written : Written) (tree : FileTree) :
    runFrom ((writeAll work).run written) tree =
      runFrom (((output work tree).write work).run written) tree := by
  rw [output, writeAll, StateT.run_bind, runFrom_bind, runFrom_writeAdvice]
  rcases adviceFile work tree with cause | _ | file
  · rw [Output.write_failed]
    rfl
  · rw [writeUnits_eq, Output.write_nothing]
  · rw [Output.write_file, StateT.run_bind, runFrom_bind, writeUnits_eq]

/-! Writing the files -/

theorem run_write (work : Work) (relative : Path) (text : String) (written : Written) :
    (write work relative text).run written =
      TreeM.mapError .overlay ((work.overlay.write relative text).run written) >>= fun result =>
        pure ((), result.2) := by
  simp [write]

/-- A weave writes files as its overlay does. -/
theorem runFrom_write (work : Work) (output : Output) (written : Written) (tree : FileTree) :
    runFrom ((output.write work).run written) tree =
      match runFrom ((work.overlay.writeAll output.files).run written) tree with
      | (.ok (_, written), after) => runFrom (output.ended.run written) after
      | (.error cause, after) => (.error (.overlay cause), after) := by
  obtain ⟨files, failure⟩ := output
  induction files generalizing written tree with
  | nil => rfl
  | cons file files ih =>
      obtain ⟨relative, text⟩ := file
      have split : Output.write work ⟨(relative, text) :: files, failure⟩ =
          Weave.write work relative text >>= fun _ => Output.write work ⟨files, failure⟩ :=
        Output.write_file work (relative, text) ⟨files, failure⟩
      rw [split, StateT.run_bind, run_write, Overlay.run_writeAll_cons, runFrom_bind, runFrom_bind,
        runFrom_bind, TreeM.runFrom_mapError]
      rcases runFrom ((work.overlay.write relative text).run written) tree with ⟨cause | ⟨_, next⟩, middle⟩
      · rfl
      · exact ih next middle

/-! Whole runs -/

/-- What a weave has found out before it writes anything. -/
structure Prepares (plan : Plan) (tree : FileTree) (work : Work) : Prop where
  planned : work.plan = plan
  spec : AspectSpec.load tree plan.aspectFile = .ok work.spec
  package : TargetPackage.load tree plan.config.sourceRoot plan.target plan.config.aspectSuffix =
    .ok work.package
  points : work.points = JoinPoints.ofSpec work.spec work.package
  overlay : work.overlay = ⟨work.package.layout.root, absolute tree plan.overlayRoot⟩

theorem runFrom_lift_ok_iff {ε α : Type} {wrap : ε → WeaveError} {outcome : Except ε α} {value : α}
    {tree after : FileTree} :
    runFrom (lift wrap outcome) tree = (.ok value, after) ↔ outcome = .ok value ∧ after = tree := by
  cases outcome with
  | error cause => exact ⟨fun ran => (by cases ran), fun found => (by cases found.1)⟩
  | ok given =>
      constructor
      · intro ran
        cases ran
        exact ⟨rfl, rfl⟩
      · rintro ⟨same, rfl⟩
        cases same
        rfl

theorem prepare_ok_iff {plan : Plan} {tree after : FileTree} {work : Work} :
    runFrom (prepare plan) tree = (.ok work, after) ↔ Prepares plan tree work ∧ after = tree := by
  rw [prepare, runFrom_bind, runFrom_get]
  constructor
  · intro ran
    obtain ⟨spec, _, loaded, ran⟩ := runFrom_bind_ok ran
    obtain ⟨specLoaded, rfl⟩ := runFrom_lift_ok_iff.mp loaded
    obtain ⟨package, _, loaded, ran⟩ := runFrom_bind_ok ran
    obtain ⟨packageLoaded, rfl⟩ := runFrom_lift_ok_iff.mp loaded
    cases ran
    exact ⟨⟨rfl, specLoaded, packageLoaded, rfl, rfl⟩, rfl⟩
  · rintro ⟨prepares, rfl⟩
    obtain ⟨given, spec, package, points, overlay⟩ := work
    obtain ⟨planned, specLoaded, packageLoaded, selected, placed⟩ := prepares
    dsimp only at planned specLoaded packageLoaded selected placed ⊢
    rw [specLoaded, packageLoaded, planned, selected, placed]
    rfl

/-- Links what was not written, and reports. -/
def link (work : Work) (written : Written) : WeaveM WeaveOutcome := do
  let report ← TreeM.mapError WeaveError.overlay
    (work.overlay.reconcile written work.plan.config.aspectSuffix)
  return {
    written := written.sorted.map work.overlay.ofRelative
    report := report
    diagnostics := work.points.findings
    joinPoints := work.points.size }

/-- A weave writes its files and then fails or links the rest. -/
theorem runFrom_finish (work : Work) (tree : FileTree) :
    runFrom (finish work) tree =
      match runFrom ((work.overlay.writeAll (output work tree).files).run {}) tree with
      | (.error cause, after) => (.error (.overlay cause), after)
      | (.ok (_, written), after) =>
        match (output work tree).failure with
        | some cause => (.error cause, after)
        | none => runFrom (link work written) after := by
  have begins : finish work = (writeAll work).run {} >>= fun result => link work result.2 := rfl
  rw [begins, runFrom_bind, runFrom_writeAll, runFrom_write, Output.ended]
  rcases runFrom ((work.overlay.writeAll (output work tree).files).run {}) tree with
    ⟨cause | ⟨_, written⟩, after⟩
  · rfl
  · cases (output work tree).failure <;> rfl

/-- What a weave reports that has written its files and linked the rest. -/
def concluded (work : Work) (written : Written) (report : ReconcileReport) : WeaveOutcome where
  written := written.sorted.map work.overlay.ofRelative
  report := report
  diagnostics := work.points.findings
  joinPoints := work.points.size

theorem runFrom_link (work : Work) (written : Written) (tree : FileTree) :
    runFrom (link work written) tree =
      match runFrom (work.overlay.reconcile written work.plan.config.aspectSuffix) tree with
      | (.error cause, after) => (.error (.overlay cause), after)
      | (.ok report, after) => (.ok (concluded work written report), after) := by
  rw [link, runFrom_bind, TreeM.runFrom_mapError]
  rcases runFrom (work.overlay.reconcile written work.plan.config.aspectSuffix) tree with
    ⟨cause | report, after⟩
  · rfl
  · rfl

/-- A weave succeeds when its files are all had and written and the rest is linked. -/
theorem finish_ok_iff {work : Work} {tree after : FileTree} {outcome : WeaveOutcome} :
    runFrom (finish work) tree = (.ok outcome, after) ↔
      ∃ written middle report, (output work tree).failure = none ∧
        runFrom ((work.overlay.writeAll (output work tree).files).run {}) tree =
          (.ok ((), written), middle) ∧
        runFrom (work.overlay.reconcile written work.plan.config.aspectSuffix) middle =
          (.ok report, after) ∧ outcome = concluded work written report := by
  rw [runFrom_finish]
  constructor
  · intro ran
    split at ran
    · cases ran
    · rename_i written middle wrote
      split at ran
      · cases ran
      · rename_i succeeds
        rw [runFrom_link] at ran
        split at ran
        · cases ran
        · rename_i linked
          cases ran
          exact ⟨written, middle, _, succeeds, wrote, linked, rfl⟩
  · rintro ⟨written, middle, report, succeeds, wrote, linked, rfl⟩
    rw [wrote]
    dsimp only
    rw [succeeds]
    dsimp only
    rw [runFrom_link, linked]

/-- A run with join points finishes the work that it has prepared. -/
theorem runFrom_run {config : WeaveConfig} {plan : Plan} {work : Work} {tree : FileTree}
    (planned : Weave.plan config = .ok plan) (prepared : runFrom (prepare plan) tree = (.ok work, tree)) :
    runFrom (run config) tree =
      if work.points.isEmpty then (.ok { diagnostics := work.points.findings }, tree)
      else runFrom (finish work) tree := by
  have begins : run config = prepare plan >>= fun work =>
      if work.points.isEmpty then pure { diagnostics := work.points.findings } else finish work := by
    rw [run, planned]
    rfl
  rw [begins, runFrom_bind_of_ok prepared]
  split <;> rfl

end Weave
end AspectLoom
