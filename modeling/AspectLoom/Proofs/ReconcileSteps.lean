import AspectLoom.Proofs.OverlayWrites
/-!
Steps of a reconciliation. What is done with an entry depends on the tree alone, and doing it spares
everything off the overlay's ground, whether the reconciliation succeeds or not.
-/
namespace AspectLoom

open Actions
open FileTree (isEntryName)

/-- A report with one more entry. -/
def Overlay.noted (overlay : Overlay) (report : ReconcileReport) (relative : Path) :
    AspectLoom.Action → ReconcileReport
  | .descend => { report with recursed := report.recursed ++ [relative] }
  | .skip reason => { report with skipped := report.skipped ++ [(relative, reason)] }
  | .link => { report with linked := report.linked ++ [overlay.ofRelative relative] }

namespace Overlay

variable {overlay : Overlay} {tree : FileTree}

/-- What `sourceIsDirectory` answers. -/
def kindSeen (tree : FileTree) (path : Path) : Except OverlayError Bool :=
  match tree.target path with
  | .ok .directory => .ok true
  | .ok _ => .ok false
  | .error _ =>
    match tree.entryOf path with
    | .ok _ => .ok false
    | .error cause => .error (.file path cause)

theorem runFrom_sourceIsDirectory (path : Path) (tree : FileTree) :
    runFrom (sourceIsDirectory path) tree = (kindSeen tree path, tree) := by
  rw [sourceIsDirectory, kindSeen, runFrom_fileStep, runFrom_bind, runFrom_get]
  dsimp only
  cases tree.target path with
  | ok entry => cases entry <;> rfl
  | error cause =>
      have asked : runFrom (do
          let _ ← TreeM.ask fun tree => tree.entryOf path
          pure false) tree =
            match tree.entryOf path with
            | .ok _ => (.ok false, tree)
            | .error cause => (.error cause, tree) := by
        rw [runFrom_bind, TreeM.runFrom_ask]
        cases tree.entryOf path <;> rfl
      dsimp only
      rw [asked]
      cases tree.entryOf path <;> rfl

/-- The place of an entry in the source tree. -/
def Walk.source (walk : Walk) (name : String) : Path := (walk.overlay.sourceOf walk.dir).join ⟨name⟩

/-- What `actionFor` answers for an entry. -/
def chosen (walk : Walk) (tree : FileTree) (name : String) : Except OverlayError AspectLoom.Action := do
  let isDirectory ← kindSeen tree (walk.source name)
  let found ← seen tree (walk.overlay.ofRelative (walk.dir.join ⟨name⟩))
  if walk.source name == walk.overlay.root then .ok (.skip .overlayRoot)
  else .ok (Action.decide walk.written walk.suffix (walk.dir.join ⟨name⟩) isDirectory found.isSome)

theorem runFrom_actionFor (walk : Walk) (name : String) (tree : FileTree) :
    runFrom (actionFor walk (walk.source name) (walk.dir.join ⟨name⟩)) tree =
      (chosen walk tree name, tree) := by
  rw [actionFor, chosen, runFrom_bind, runFrom_sourceIsDirectory]
  cases kindSeen tree (walk.source name) with
  | error cause => rfl
  | ok isDirectory =>
      dsimp only
      rw [runFrom_bind, runFrom_look]
      cases seen tree (walk.overlay.ofRelative (walk.dir.join ⟨name⟩)) with
      | error cause => rfl
      | ok found =>
          dsimp only
          split <;> simp_all [bind, Except.bind] <;> rfl

theorem run_prepare (walk : Walk) (state : WalkState) :
    (prepare walk).run state =
      if state.ready then pure ((), state)
      else walk.overlay.ownDirectories (walk.overlay.ofRelative walk.dir) >>= fun _ =>
        pure ((), { state with ready := true }) := by
  rw [prepare]
  simp only [StateT.run_bind, StateT.run_get, pure_bind]
  split <;> simp

theorem run_visit (walk : Walk)
    (descend : Path → ReconcileReport → TreeM OverlayError ReconcileReport) (name : String)
    (state : WalkState) :
    (visit walk descend name).run state =
      actionFor walk (walk.source name) (walk.dir.join ⟨name⟩) >>= fun action =>
        let relative := walk.dir.join ⟨name⟩
        match action with
        | .descend =>
          walk.overlay.ownDirectories (walk.overlay.ofRelative relative) >>= fun _ =>
            descend relative (walk.overlay.noted state.report relative .descend) >>= fun report =>
              pure ((), { state with report := report })
        | .skip reason =>
          pure ((), { state with report := walk.overlay.noted state.report relative (.skip reason) })
        | .link =>
          (prepare walk).run state >>= fun prepared =>
            makeLink (walk.source name) (walk.overlay.ofRelative relative) >>= fun _ =>
              pure ((), { prepared.2 with
                report := walk.overlay.noted prepared.2.report relative .link }) := by
  rw [visit]
  simp only [StateT.run_bind, StateT.run_monadLift, bind_assoc, pure_bind]
  congr 1
  funext action
  cases action <;> simp [Walk.source, noted, noteDescent, noteSkip, noteLink]

theorem run_visitAll_cons (walk : Walk)
    (descend : Path → ReconcileReport → TreeM OverlayError ReconcileReport) (name : String)
    (names : List String) (state : WalkState) :
    (visitAll walk descend (name :: names)).run state =
      (visit walk descend name).run state >>= fun visited =>
        (visitAll walk descend names).run visited.2 := by
  rw [visitAll, StateT.run_bind]

theorem run_walkDirectory (overlay : Overlay) (written : Written) (suffix : String) (depth : Nat)
    (dir : Path) (report : ReconcileReport) :
    walkDirectory overlay written suffix (depth + 1) dir report =
      fileStep (overlay.sourceOf dir) (TreeM.ask fun tree => tree.list (overlay.sourceOf dir)) >>=
        fun names => (visitAll ⟨overlay, written, suffix, dir⟩
          (walkDirectory overlay written suffix depth) names).run { report := report } >>=
            fun visited => pure visited.2.report := by
  rw [walkDirectory]

/-- Listing a directory leaves the tree as it is. -/
theorem list_of_runFrom {tree after : FileTree} {source : Path} {names : List String}
    (ran : runFrom (fileStep source (TreeM.ask fun tree => tree.list source)) tree =
      (.ok names, after)) : after = tree ∧ tree.list source = .ok names := by
  have asks : Ends (fun names after => after = tree ∧ tree.list source = .ok names) (fun _ => True)
      (TreeM.ask fun tree => tree.list source) tree :=
    ends_of_ran (TreeM.runFrom_ask _ tree) (fun _ same => ⟨rfl, same⟩) fun _ _ => trivial
  exact (fileStep_ends asks).of_ok ran

end Overlay

/-- A directory's names are names of entries. -/
theorem FileTree.isEntryName_of_list {tree : FileTree} (sound : tree.Sound) {path : Path}
    {names : List String} (listed : tree.list path = .ok names) :
    ∀ name ∈ names, isEntryName name = true := by
  intro name member
  rw [FileTree.list] at listed
  obtain ⟨place, _, listed⟩ := bind_ok listed
  split at listed
  · cases listed
    obtain ⟨⟨below, entry⟩, among, last⟩ :=
      List.mem_filterMap.mp (mem_sortBy.mp member)
    dsimp only at last
    split at last
    · exact sound.named _ among name (List.mem_of_getLast? last)
    · cases last
  · cases listed
  · cases listed

/-! What a reconciliation spares -/

namespace Ground

variable {ground : Ground} {overlay : Overlay} {walk : Overlay.Walk} {tree after : FileTree}
  {dir names : List String} {name : String} {state : Overlay.WalkState}

theorem components_ofRelative {names : List String} (areNames : Path.AreNames names) :
    (overlay.ofRelative (Path.ofNames names)).components =
      overlay.root.components ++ names.map .name := by
  rw [Overlay.ofRelative, Path.components_join (Path.isAbsolute_ofNames areNames)
    (Path.head?_segments_ofNames areNames), Path.components_ofNames areNames]

theorem areNames_concat (areNames : Path.AreNames names) (isName : isEntryName name = true) :
    Path.AreNames (names ++ [name]) := by
  intro other member
  rcases List.mem_append.mp member with front | last
  · exact areNames other front
  · rw [List.mem_singleton.mp last]
    exact Path.isName_of_isEntryName isName

/-- The path of an entry leads to its name in its directory. -/
theorem lands_ofNames (areNames : Path.AreNames dir) (isName : isEntryName name = true) :
    ground.Lands overlay.root (overlay.ofRelative (Path.ofNames (dir ++ [name]))) dir name := by
  have isName' := Path.isName_of_isEntryName isName
  have all := areNames_concat areNames isName
  have segments := Path.segments_ofNames all
  have filled : (Path.ofNames (dir ++ [name])).text ≠ "" := by
    intro empty
    rw [show Path.ofNames (dir ++ [name]) = ⟨""⟩ from congrArg Path.mk empty] at segments
    exact absurd segments.symm (by simp [Path.segments, Path.pieces])
  have noSlash : (Path.ofNames (dir ++ [name])).text.endsWith "/" = false := by
    rw [← Path.join_ofNames areNames isName']
    exact Path.not_endsWith_join isName'
  have lands : ground.Lands overlay.root (overlay.ofRelative (Path.ofNames (dir ++ [name]))) _ name :=
    lands_join (Path.isAbsolute_ofNames all) filled noSlash segments isName'
  have dots : dir.filter (· ≠ ".") = dir := by
    rw [List.filter_eq_self]
    exact fun other member => by simpa using (areNames other member).2.2.1
  rwa [dots] at lands

theorem makeLink_spares (ready : ground.Ready overlay.root tree dir) (areNames : Path.AreNames dir)
    (isName : isEntryName name = true) {target : String}
    (made : tree.makeLink target (overlay.ofRelative (Path.ofNames (dir ++ [name]))) = .ok after) :
    tree.entryAt? (ground.place ++ dir ++ [name]) = none ∧
      after = tree.put (ground.place ++ dir ++ [name]) (.link target) ∧ ground.Spares tree after := by
  obtain ⟨place, placed, missing, rfl⟩ := FileTree.makeLink_ok made
  have fits := FileTree.place_fits ready.stands.sound placed
  have here := (lands_ofNames areNames isName).place_eq ready (by simp) placed
  subst here
  refine ⟨missing, rfl, (Ready.above ready).spares_put fits ?_
    (below_starts ground dir name)⟩
  rw [missing]
  simp

theorem prepare_ends (stands : ground.Stands walk.overlay.root tree)
    (walked : walk.dir = Path.ofNames dir) (areNames : Path.AreNames dir)
    (ready : state.ready = true → ground.Ready walk.overlay.root tree dir) :
    Ends (fun _ middle => ground.Spares tree middle ∧ ground.Ready walk.overlay.root middle dir)
      (fun middle => ground.Spares tree middle) ((Overlay.prepare walk).run state) tree := by
  rw [Overlay.run_prepare]
  split
  · rename_i isReady
    exact ends_pure ⟨Spares.refl _ _, ready isReady⟩
  · rw [walked]
    refine ends_bind ((ownDirectories_ends stands (components_ofRelative areNames)
      areNames).imp ?_ fun _ => id)
    exact fun _ middle owns => ends_pure ⟨owns.spares, owns.ready⟩

section
variable {descend : Path → ReconcileReport → TreeM OverlayError ReconcileReport}

/-- One entry: the walked directory stays ready once it is. -/
theorem visit_ends (stands : ground.Stands walk.overlay.root tree)
    (walked : walk.dir = Path.ofNames dir) (areNames : Path.AreNames dir)
    (isName : isEntryName name = true)
    (ready : state.ready = true → ground.Ready walk.overlay.root tree dir)
    (descends : ∀ names report tree, Path.AreNames names → ground.Stands walk.overlay.root tree →
      Ends (fun _ after => ground.Spares tree after) (fun after => ground.Spares tree after)
        (descend (Path.ofNames names) report) tree) :
    Ends (fun visited after => ground.Spares tree after ∧
        (visited.2.ready = true → ground.Ready walk.overlay.root after dir))
      (fun after => ground.Spares tree after) ((Overlay.visit walk descend name).run state) tree := by
  have isName' := Path.isName_of_isEntryName isName
  have all := areNames_concat areNames isName
  have relative : walk.dir.join ⟨name⟩ = Path.ofNames (dir ++ [name]) := by
    rw [walked, Path.join_ofNames areNames isName']
  have unchanged := Spares.refl ground tree
  rw [Overlay.run_visit]
  refine ends_bind (ends_of_ran (Overlay.runFrom_actionFor walk name tree) ?_
    fun _ _ => unchanged)
  intro action _
  rw [relative]
  cases action with
  | descend =>
      refine ends_bind ((ownDirectories_ends stands (components_ofRelative all) all).imp ?_
        fun _ => id)
      intro _ middle owns
      refine ends_bind ((descends _ _ middle all owns.ready.stands).imp ?_ fun _ => owns.spares.trans)
      intro report after more
      have spares := owns.spares.trans more
      exact ends_pure ⟨spares, fun isReady => (ready isReady).later spares⟩
  | skip reason => exact ends_pure ⟨unchanged, ready⟩
  | link =>
      refine ends_bind ((prepare_ends stands walked areNames ready).imp ?_ fun _ => id)
      rintro prepared middle ⟨spares, isReady⟩
      rw [Overlay.makeLink]
      refine ends_bind (Overlay.fileStep_ends ((Overlay.apply_ends _ middle).imp ?_
        fun _ same => same ▸ spares))
      intro _ after made
      obtain ⟨_, _, more⟩ := makeLink_spares isReady areNames isName made
      exact ends_pure ⟨spares.trans more, fun _ => isReady.later more⟩

theorem visitAll_ends (stands : ground.Stands walk.overlay.root tree)
    (walked : walk.dir = Path.ofNames dir) (areNames : Path.AreNames dir)
    (areEntries : ∀ name ∈ names, isEntryName name = true)
    (ready : state.ready = true → ground.Ready walk.overlay.root tree dir)
    (descends : ∀ names report tree, Path.AreNames names → ground.Stands walk.overlay.root tree →
      Ends (fun _ after => ground.Spares tree after) (fun after => ground.Spares tree after)
        (descend (Path.ofNames names) report) tree) :
    Ends (fun _ after => ground.Spares tree after) (fun after => ground.Spares tree after)
      ((Overlay.visitAll walk descend names).run state) tree := by
  induction names generalizing tree state with
  | nil => exact ends_pure (Spares.refl _ _)
  | cons name names ih =>
      obtain ⟨isName, others⟩ := List.forall_mem_cons.mp areEntries
      rw [Overlay.run_visitAll_cons]
      refine ends_bind ((visit_ends stands walked areNames isName ready descends).imp ?_ fun _ => id)
      rintro visited middle ⟨spares, isReady⟩
      exact (ih (stands.later spares) others isReady).imp (fun _ _ => spares.trans)
        fun _ => spares.trans

end

/-- A walk over a source directory, however it ends. -/
theorem walkDirectory_ends (stands : ground.Stands overlay.root tree) (areNames : Path.AreNames dir)
    (written : Written) (suffix : String) (depth : Nat) (report : ReconcileReport) :
    Ends (fun _ after => ground.Spares tree after) (fun after => ground.Spares tree after)
      (overlay.walkDirectory written suffix depth (Path.ofNames dir) report) tree := by
  induction depth generalizing dir tree report with
  | zero => exact ends_pure (Spares.refl _ _)
  | succ depth ih =>
      rw [Overlay.run_walkDirectory]
      refine ends_bind (Overlay.fileStep_ends (ends_of_ran (TreeM.runFrom_ask _ tree) ?_
        fun _ _ => Spares.refl _ _))
      intro names listed
      refine ends_bind ((visitAll_ends stands rfl
        areNames (FileTree.isEntryName_of_list stands.sound listed) (by simp)
        fun names report tree areNames stands => ih stands areNames report).imp ?_ fun _ => id)
      exact fun _ _ spares => ends_pure spares

theorem reconcile_ends (stands : ground.Stands overlay.root tree) (written : Written)
    (suffix : String) :
    Ends (fun _ after => ground.Spares tree after) (fun after => ground.Spares tree after)
      (overlay.reconcile written suffix) tree :=
  walkDirectory_ends stands (List.forall_mem_nil _) written suffix _ {}

end Ground
end AspectLoom
