import AspectLoom.Proofs.PastLinks
/-!
Directories that a reconciliation enters. Each but the source root lies strictly above a written path
and none is entered twice, so a walk ends above the deepest written path, also where links lead the
source tree back into itself.
-/
namespace AspectLoom

open Actions
open FileTree (isEntryName)

/-! Written paths below a directory -/

namespace Written

variable {written : Written} {dir : Path}

/-- A written path lies below a directory when it goes on from it, component by component. -/
theorem reaches_iff : written.reaches dir = true ↔
    ∃ path ∈ written.paths, dir.components <+: path.components ∧ dir.components ≠ path.components := by
  rw [reaches, List.any_eq_true]
  refine exists_congr fun path => and_congr_right fun _ => ?_
  rw [Bool.and_eq_true, Path.isAbove, List.isPrefixOf_iff_prefix, bne, Bool.not_eq_true',
    ← Bool.not_eq_true, Path.beq_iff, and_comm, ne_comm]

theorem length_lt_of_reaches (reached : written.reaches dir = true) :
    dir.components.length < written.depth := by
  obtain ⟨path, member, above, different⟩ := reaches_iff.mp reached
  have shorter : dir.components.length < path.components.length :=
    Nat.lt_of_le_of_ne above.length_le fun same => different (above.eq_of_length same)
  exact Nat.lt_of_lt_of_le shorter
    ((Ground.le_foldl_max _ 0).2 _ (List.mem_map.mpr ⟨path, member, rfl⟩))

end Written

/-! What a walk does to the tree -/

namespace Overlay

/-- A walk of a directory, with the report up to there. -/
abbrev Descent := Path → ReconcileReport → TreeM OverlayError ReconcileReport

section

variable {overlay : Overlay} {walk : Walk} {descend : Descent} {related : FileTree → FileTree → Prop}
  [Std.Refl related] [IsTrans FileTree related]
  (makes : ∀ {tree after : FileTree} {path : Path}, tree.makeDirectory path = .ok after →
    related tree after)
  (unlinks : ∀ {tree after : FileTree} {path : Path} {target : String},
    seen tree path = .ok (some (.link target)) → tree.removeFile path = .ok after →
      related tree after)
  (links : ∀ {tree after : FileTree} {path : Path} {target : String},
    tree.makeLink target path = .ok after → related tree after)
include makes unlinks links

theorem visit_moves (descends : ∀ dir report, Moves related (descend dir report)) (name : String)
    (state : WalkState) : Moves related ((visit walk descend name).run state) := by
  have owns := fun dir => walk.overlay.ownDirectories_moves makes unlinks dir
  have chooses : Moves related (actionFor walk (walk.source name) (walk.dir.join ⟨name⟩)) := by
    intro tree
    rw [leaves, runFrom_actionFor]
    exact Std.Refl.refl tree
  rw [run_visit]
  refine moves_bind chooses fun action => ?_
  cases action with
  | descend => exact moves_bind (owns _) fun _ => moves_bind (descends _ _) fun _ => moves_pure _
  | skip reason => exact moves_pure _
  | link =>
      have prepares : Moves related ((prepare walk).run state) := by
        rw [run_prepare]
        split
        · exact moves_pure _
        · exact moves_bind (owns _) fun _ => moves_pure _
      exact moves_bind prepares fun _ =>
        moves_bind (fileStep_moves (apply_moves links)) fun _ => moves_pure _

theorem visitAll_moves (descends : ∀ dir report, Moves related (descend dir report))
    (names : List String) (state : WalkState) :
    Moves related ((visitAll walk descend names).run state) := by
  induction names generalizing state with
  | nil => exact moves_pure _
  | cons name names ih =>
      rw [run_visitAll_cons]
      exact moves_bind (visit_moves makes unlinks links descends name state) fun _ => ih _

theorem walkDirectory_moves (written : Written) (suffix : String) (depth : Nat) (dir : Path)
    (report : ReconcileReport) :
    Moves related (overlay.walkDirectory written suffix depth dir report) := by
  induction depth generalizing dir report with
  | zero => exact moves_pure _
  | succ depth ih =>
      have lists : Moves related (fileStep (overlay.sourceOf dir)
          (TreeM.ask fun tree => tree.list (overlay.sourceOf dir))) := by
        refine fileStep_moves fun tree => ?_
        rw [leaves, TreeM.runFrom_ask]
        exact Std.Refl.refl tree
      rw [run_walkDirectory]
      exact moves_bind lists fun names =>
        moves_bind (visitAll_moves makes unlinks links ih names _) fun _ => moves_pure _

end

end Overlay

namespace FileTree

variable {tree after : FileTree} {path : Path} {target : String}

/-- A tree that a file system can hold stays one. -/
def KeepsSound (before after : FileTree) : Prop := before.Sound → after.Sound

instance : Std.Refl KeepsSound := ⟨fun _ => id⟩

instance : IsTrans FileTree KeepsSound := ⟨fun _ _ _ first second => second ∘ first⟩

theorem makeDirectory_keepsSound (made : tree.makeDirectory path = .ok after) :
    KeepsSound tree after := fun sound => (makeDirectory_unlinked made sound).1

theorem removeFile_keepsSound (removed : tree.removeFile path = .ok after) : KeepsSound tree after :=
  fun sound => (removeFile_unlinked removed sound).1

theorem makeLink_keepsSound (made : tree.makeLink target path = .ok after) : KeepsSound tree after := by
  intro sound
  obtain ⟨place, placed, missing, rfl⟩ := makeLink_ok made
  exact sound.put (place_fits sound placed) (by simp [missing])

end FileTree

open FileTree (KeepsSound makeDirectory_keepsSound removeFile_keepsSound makeLink_keepsSound)

namespace Overlay

/-! The directories entered -/

section

variable (walk : Walk) (descend : Descent) (further : Path → ReconcileReport → FileTree → List Path)

/-- The directories entered for one entry: its own, if it is walked, and those below, which `further`
tells. -/
def enteredAt (state : WalkState) (tree : FileTree) (name : String) : List Path :=
  let relative := walk.dir.join ⟨name⟩
  onSuccess (runFrom (actionFor walk (walk.source name) relative) tree) fun action tree =>
    match action with
    | .descend =>
      onSuccess (runFrom (walk.overlay.ownDirectories (walk.overlay.ofRelative relative)) tree)
        fun _ made =>
          relative :: further relative (walk.overlay.noted state.report relative .descend) made
    | .skip _ | .link => []

/-- The directories entered for some entries, up to the first that fails. -/
def enteredAmong : List String → WalkState → FileTree → List Path
  | [], _, _ => []
  | name :: names, state, tree =>
    enteredAt walk further state tree name ++
      onSuccess (runFrom ((visit walk descend name).run state) tree)
        fun visited after => enteredAmong names visited.2 after

end

/-- The directories that a walk of a directory enters below it, in order, whether or not it succeeds. -/
def enteredBelow (overlay : Overlay) (written : Written) (suffix : String) :
    Nat → Path → ReconcileReport → FileTree → List Path
  | 0, _, _, _ => []
  | depth + 1, dir, report, tree =>
    let source := overlay.sourceOf dir
    onSuccess (runFrom (fileStep source (TreeM.ask fun tree => tree.list source)) tree)
      fun names tree => enteredAmong ⟨overlay, written, suffix, dir⟩
        (overlay.walkDirectory written suffix depth) (enteredBelow overlay written suffix depth) names
        { report := report } tree

/-- The directories that a reconciliation enters, by their relative paths. -/
def entered (overlay : Overlay) (written : Written) (suffix : String) (tree : FileTree) : List Path :=
  ⟨""⟩ :: overlay.enteredBelow written suffix (written.depth + 1) ⟨""⟩ {} tree

/-- A walk that goes a number of levels down at most and enters some directories only. Where it would
enter another one, or go further down, something else is done. -/
def walkWithin (overlay : Overlay) (written : Written) (suffix : String) (dirs : List Path)
    (elsewhere : Descent) : Nat → Descent
  | 0, dir, report => elsewhere dir report
  | levels + 1, dir, report =>
    if dirs.contains dir then do
      let source := overlay.sourceOf dir
      let names ← fileStep source (TreeM.ask fun tree => tree.list source)
      let (_, state) ← (visitAll ⟨overlay, written, suffix, dir⟩
        (walkWithin overlay written suffix dirs elsewhere levels) names).run { report := report }
      pure state.report
    else elsewhere dir report

/-! What is recorded -/

section

variable {walk : Walk} {descend : Descent} {further : Path → ReconcileReport → FileTree → List Path}
  {name : String} {names : List String} {state : WalkState} {tree after : FileTree}
  {visited : PUnit × WalkState}
  (descends : ∀ {dir report tree result after},
    runFrom (descend dir report) tree = (.ok result, after) →
      result.recursed = report.recursed ++ further dir report tree)
include descends

theorem visit_recursed (ran : runFrom ((visit walk descend name).run state) tree = (.ok visited, after)) :
    visited.2.report.recursed = state.report.recursed ++ enteredAt walk further state tree name := by
  rw [run_visit] at ran
  obtain ⟨action, first, choice, ran⟩ := runFrom_bind_ok ran
  rw [enteredAt, choice, onSuccess_ok]
  cases action with
  | descend =>
      obtain ⟨_, made, owned, ran⟩ := runFrom_bind_ok ran
      obtain ⟨report, last, descended, ran⟩ := runFrom_bind_ok ran
      cases ran
      dsimp only
      rw [owned, onSuccess_ok, descends descended, noted, List.append_assoc, List.singleton_append]
  | skip reason =>
      cases ran
      exact (List.append_nil _).symm
  | link =>
      obtain ⟨prepared, made, preparing, ran⟩ := runFrom_bind_ok ran
      obtain ⟨_, last, linked, ran⟩ := runFrom_bind_ok ran
      cases ran
      have same : prepared.2.report = state.report := by
        rw [run_prepare] at preparing
        split at preparing
        · cases preparing
          rfl
        · obtain ⟨_, owned, owns, rest⟩ := runFrom_bind_ok preparing
          cases rest
          rfl
      rw [noted, same]
      exact (List.append_nil _).symm

theorem visitAll_recursed
    (ran : runFrom ((visitAll walk descend names).run state) tree = (.ok visited, after)) :
    visited.2.report.recursed =
      state.report.recursed ++ enteredAmong walk descend further names state tree := by
  induction names generalizing state tree with
  | nil =>
      cases ran
      simp [enteredAmong]
  | cons name names ih =>
      rw [run_visitAll_cons] at ran
      obtain ⟨⟨_, next⟩, middle, visit, ran⟩ := runFrom_bind_ok ran
      rw [ih ran, visit_recursed descends visit, enteredAmong, visit, onSuccess_ok, List.append_assoc]

end

variable {overlay : Overlay} {written : Written} {suffix : String} {tree after : FileTree}

/-- A walk that succeeds has recorded the directories that it entered. -/
theorem walkDirectory_recursed {depth : Nat} {dir : Path} {report result : ReconcileReport}
    (ran : runFrom (overlay.walkDirectory written suffix depth dir report) tree = (.ok result, after)) :
    result.recursed =
      report.recursed ++ overlay.enteredBelow written suffix depth dir report tree := by
  induction depth generalizing dir report tree result after with
  | zero =>
      cases ran
      simp [enteredBelow]
  | succ depth ih =>
      rw [run_walkDirectory] at ran
      obtain ⟨names, first, listed, ran⟩ := runFrom_bind_ok ran
      obtain ⟨visited, last, visits, ran⟩ := runFrom_bind_ok ran
      cases ran
      rw [visitAll_recursed ih visits, enteredBelow]
      dsimp only
      rw [listed, onSuccess_ok]

/-! Where the entered directories lie -/

/-- Directories that are entered below one directory, under some of the names in it. -/
structure Enters (written : Written) (dir names : List String) (dirs : List Path) : Prop where
  reached : ∀ path ∈ dirs, written.reaches path = true
  below : ∀ path ∈ dirs, ∃ name ∈ names,
    dir.map Component.name ++ [.name name] <+: path.components
  distinct : (dirs.map Path.components).Nodup

/-- Directories that are entered below one directory, under whichever names. -/
def EntersBelow (written : Written) (dir : List String) (dirs : List Path) : Prop :=
  ∃ names, Enters written dir names dirs

namespace Enters

variable {dir names : List String} {name : String} {front dirs : List Path}

theorem nil : Enters written dir names [] :=
  ⟨List.forall_mem_nil _, List.forall_mem_nil _, List.nodup_nil⟩

/-- Directories under different names differ. -/
theorem append (first : Enters written dir [name] front) (others : Enters written dir names dirs)
    (other : name ∉ names) : Enters written dir (name :: names) (front ++ dirs) where
  reached := fun path member => (List.mem_append.mp member).elim (first.reached path) (others.reached path)
  below := by
    intro path member
    rcases List.mem_append.mp member with early | late
    · obtain ⟨same, among, starts⟩ := first.below path early
      exact ⟨same, List.mem_cons.mpr (.inl (List.mem_singleton.mp among)), starts⟩
    · obtain ⟨later, among, starts⟩ := others.below path late
      exact ⟨later, List.mem_cons_of_mem _ among, starts⟩
  distinct := by
    rw [List.map_append]
    refine first.distinct.append others.distinct fun components early late => ?_
    obtain ⟨path, inFront, rfl⟩ := List.mem_map.mp early
    obtain ⟨again, inOthers, same⟩ := List.mem_map.mp late
    obtain ⟨_, isName, left⟩ := first.below path inFront
    obtain ⟨_, among, right⟩ := others.below again inOthers
    -- a path has one name at this depth, which would be the first one and one of the others
    have equal := Ground.name_eq_of_starts left (same ▸ right)
    exact other (List.mem_singleton.mp isName ▸ Component.name.inj equal ▸ among)

/-- A directory, and then those below it. -/
theorem cons (areNames : Path.AreNames (dir ++ [name]))
    (reached : written.reaches (Path.ofNames (dir ++ [name])) = true)
    (inside : Enters written (dir ++ [name]) names dirs) :
    Enters written dir [name] (Path.ofNames (dir ++ [name]) :: dirs) where
  reached := List.forall_mem_cons.mpr ⟨reached, inside.reached⟩
  below := by
    have here : dir.map Component.name ++ [.name name] <+:
        (Path.ofNames (dir ++ [name])).components := by
      rw [Path.components_ofNames areNames, List.map_append, List.map_singleton]
    refine List.forall_mem_cons.mpr ⟨⟨name, List.mem_singleton_self _, here⟩, fun path member => ?_⟩
    obtain ⟨_, _, starts⟩ := inside.below path member
    rw [List.map_append, List.map_singleton] at starts
    exact ⟨name, List.mem_singleton_self _, (List.prefix_append _ _).trans starts⟩
  distinct := by
    refine List.nodup_cons.mpr ⟨fun again => ?_, inside.distinct⟩
    obtain ⟨path, member, same⟩ := List.mem_map.mp again
    obtain ⟨_, _, starts⟩ := inside.below path member
    rw [same, Path.components_ofNames areNames] at starts
    exact absurd starts.length_le (by simp)

end Enters

theorem ownDirectories_keepsSound (overlay : Overlay) (dir : Path) :
    Moves KeepsSound (overlay.ownDirectories dir) :=
  overlay.ownDirectories_moves makeDirectory_keepsSound (fun _ => removeFile_keepsSound) dir

theorem visit_keepsSound (walk : Walk) {descend : Descent}
    (keeps : ∀ dir report, Moves KeepsSound (descend dir report)) (name : String) (state : WalkState) :
    Moves KeepsSound ((visit walk descend name).run state) :=
  visit_moves makeDirectory_keepsSound (fun _ => removeFile_keepsSound) makeLink_keepsSound keeps name
    state

theorem walkDirectory_keepsSound (overlay : Overlay) (written : Written) (suffix : String) (depth : Nat)
    (dir : Path) (report : ReconcileReport) :
    Moves KeepsSound (overlay.walkDirectory written suffix depth dir report) :=
  walkDirectory_moves makeDirectory_keepsSound (fun _ => removeFile_keepsSound) makeLink_keepsSound
    written suffix depth dir report

section

variable {descend : Descent} {further : Path → ReconcileReport → FileTree → List Path}
  {dir names : List String} {name : String} {state : WalkState}

theorem enteredAt_enters (areNames : Path.AreNames dir) (isName : isEntryName name = true)
    (sound : tree.Sound)
    (furthers : ∀ below report tree, Path.AreNames below → tree.Sound →
      EntersBelow written below (further (Path.ofNames below) report tree)) :
    Enters written dir [name]
      (enteredAt ⟨overlay, written, suffix, Path.ofNames dir⟩ further state tree name) := by
  have all := Ground.areNames_concat areNames isName
  have relative := Path.join_ofNames areNames (Path.isName_of_isEntryName isName)
  refine onSuccess_holds .nil fun action after choice => ?_
  rw [runFrom_actionFor] at choice
  obtain ⟨chose, rfl⟩ := Prod.mk.inj choice
  cases action with
  | descend =>
      have reached := Ground.reaches_of_descend chose
      dsimp only at reached ⊢
      refine onSuccess_holds .nil fun _ made owned => ?_
      have moved := overlay.ownDirectories_keepsSound
        (overlay.ofRelative ((Path.ofNames dir).join ⟨name⟩)) tree
      rw [leaves, owned] at moved
      rw [relative] at reached ⊢
      obtain ⟨names, inside⟩ := furthers (dir ++ [name])
        (overlay.noted state.report (Path.ofNames (dir ++ [name])) .descend) made all (moved sound)
      exact .cons all reached inside
  | skip reason => exact .nil
  | link => exact .nil

theorem enteredAmong_enters (areNames : Path.AreNames dir)
    (entries : ∀ name ∈ names, isEntryName name = true) (distinct : names.Nodup) (sound : tree.Sound)
    (keeps : ∀ dir report, Moves KeepsSound (descend dir report))
    (furthers : ∀ below report tree, Path.AreNames below → tree.Sound →
      EntersBelow written below (further (Path.ofNames below) report tree)) :
    Enters written dir names
      (enteredAmong ⟨overlay, written, suffix, Path.ofNames dir⟩ descend further names state tree) := by
  induction names generalizing state tree with
  | nil => exact .nil
  | cons name names ih =>
      obtain ⟨isName, entries⟩ := List.forall_mem_cons.mp entries
      obtain ⟨other, distinct⟩ := List.nodup_cons.mp distinct
      have here : Enters written dir [name]
          (enteredAt ⟨overlay, written, suffix, Path.ofNames dir⟩ further state tree name) :=
        enteredAt_enters areNames isName sound furthers
      have moved := visit_keepsSound ⟨overlay, written, suffix, Path.ofNames dir⟩ keeps name state tree
      refine here.append (onSuccess_holds .nil fun visited after ran => ?_) other
      rw [leaves, ran] at moved
      exact ih entries distinct (moved sound)

/-- Whatever the walks of the entries before one have done, it is handled on a tree that is sound. -/
theorem enteredBelow_enters (areNames : Path.AreNames dir) (sound : tree.Sound) (depth : Nat)
    (report : ReconcileReport) :
    EntersBelow written dir
      (overlay.enteredBelow written suffix depth (Path.ofNames dir) report tree) := by
  induction depth generalizing dir report tree with
  | zero => exact ⟨[], .nil⟩
  | succ depth ih =>
      rw [enteredBelow]
      refine onSuccess_holds ⟨[], .nil⟩ fun names after ran => ?_
      obtain ⟨rfl, listed⟩ := list_of_runFrom ran
      exact ⟨names, enteredAmong_enters areNames (FileTree.isEntryName_of_list sound listed)
        (FileTree.nodup_of_list sound listed) sound
        (overlay.walkDirectory_keepsSound written suffix depth)
        fun below report tree areNames sound => ih areNames sound report⟩

/-! Walks that enter no other directory -/

/-- An entry is handled alike where its directory, if it is entered, is walked alike. -/
theorem runFrom_visit_congr {walk : Walk} {other : Descent}
    (agrees : ∀ made,
      chosen walk tree name = .ok .descend →
      runFrom (walk.overlay.ownDirectories (walk.overlay.ofRelative (walk.dir.join ⟨name⟩))) tree =
          (.ok (), made) →
        runFrom (other (walk.dir.join ⟨name⟩)
            (walk.overlay.noted state.report (walk.dir.join ⟨name⟩) .descend)) made =
          runFrom (descend (walk.dir.join ⟨name⟩)
            (walk.overlay.noted state.report (walk.dir.join ⟨name⟩) .descend)) made) :
    runFrom ((visit walk other name).run state) tree =
      runFrom ((visit walk descend name).run state) tree := by
  rw [run_visit, run_visit]
  refine runFrom_bind_congr rfl fun action middle choice => ?_
  rw [runFrom_actionFor] at choice
  obtain ⟨chose, rfl⟩ := Prod.mk.inj choice
  cases action with
  | descend =>
      exact runFrom_bind_congr rfl fun _ made owned =>
        runFrom_bind_congr (agrees made chose owned) fun _ _ _ => rfl
  | skip reason => rfl
  | link => rfl

theorem runFrom_visitAll_congr {other : Descent} {dirs : List Path} (areNames : Path.AreNames dir)
    (entries : ∀ name ∈ names, isEntryName name = true) (sound : tree.Sound)
    (keeps : ∀ dir report, Moves KeepsSound (descend dir report))
    (covers : ∀ path ∈ enteredAmong ⟨overlay, written, suffix, Path.ofNames dir⟩ descend further names
      state tree, dirs.contains path = true)
    (agrees : ∀ name report tree, Path.AreNames (dir ++ [name]) → tree.Sound →
      written.reaches (Path.ofNames (dir ++ [name])) = true →
      (∀ path ∈ Path.ofNames (dir ++ [name]) :: further (Path.ofNames (dir ++ [name])) report tree,
        dirs.contains path = true) →
      runFrom (other (Path.ofNames (dir ++ [name])) report) tree =
        runFrom (descend (Path.ofNames (dir ++ [name])) report) tree) :
    runFrom ((visitAll ⟨overlay, written, suffix, Path.ofNames dir⟩ other names).run state) tree =
      runFrom ((visitAll ⟨overlay, written, suffix, Path.ofNames dir⟩ descend names).run state) tree := by
  induction names generalizing state tree with
  | nil => rfl
  | cons name names ih =>
      obtain ⟨isName, entries⟩ := List.forall_mem_cons.mp entries
      rw [enteredAmong] at covers
      obtain ⟨covers, coversOthers⟩ := List.forall_mem_append.mp covers
      rw [run_visitAll_cons, run_visitAll_cons]
      refine runFrom_bind_congr (runFrom_visit_congr fun made choice owned => ?_)
        fun visited middle ran => ?_
      · have reached := Ground.reaches_of_descend choice
        have moved := overlay.ownDirectories_keepsSound
          (overlay.ofRelative ((Path.ofNames dir).join ⟨name⟩)) tree
        rw [enteredAt, runFrom_actionFor, choice, onSuccess_ok] at covers
        dsimp only at reached owned covers ⊢
        rw [owned, onSuccess_ok] at covers
        rw [leaves, owned] at moved
        rw [Path.join_ofNames areNames (Path.isName_of_isEntryName isName)] at reached covers ⊢
        exact agrees name _ made (Ground.areNames_concat areNames isName) (moved sound) reached covers
      · have moved := visit_keepsSound ⟨overlay, written, suffix, Path.ofNames dir⟩ keeps name state tree
        rw [ran, onSuccess_ok] at coversOthers
        rw [leaves, ran] at moved
        exact ih entries (moved sound) coversOthers

/-- Neither another directory nor a deeper level is ever asked for. -/
theorem runFrom_walkWithin {dirs : List Path} {elsewhere : Descent} {depth levels : Nat}
    {report : ReconcileReport} (areNames : Path.AreNames dir) (sound : tree.Sound)
    (covers : ∀ path ∈ Path.ofNames dir ::
      overlay.enteredBelow written suffix depth (Path.ofNames dir) report tree,
        dirs.contains path = true)
    (deep : 0 < depth ∧ written.depth ≤ depth + dir.length)
    (high : 0 < levels ∧ written.depth ≤ levels + dir.length) :
    runFrom (overlay.walkWithin written suffix dirs elsewhere levels (Path.ofNames dir) report) tree =
      runFrom (overlay.walkDirectory written suffix depth (Path.ofNames dir) report) tree := by
  induction depth generalizing dir levels report tree with
  | zero => exact absurd deep.1 (Nat.lt_irrefl 0)
  | succ depth ih =>
      obtain ⟨levels, rfl⟩ : ∃ less, levels = less + 1 := ⟨levels - 1, by omega⟩
      obtain ⟨here, coversBelow⟩ := List.forall_mem_cons.mp covers
      rw [walkWithin, if_pos here, run_walkDirectory]
      refine runFrom_bind_congr rfl fun names middle listed => ?_
      rw [enteredBelow, listed, onSuccess_ok] at coversBelow
      obtain ⟨rfl, listing⟩ := list_of_runFrom listed
      refine runFrom_bind_congr (runFrom_visitAll_congr areNames
        (FileTree.isEntryName_of_list sound listing) sound
        (overlay.walkDirectory_keepsSound written suffix depth) coversBelow ?_) fun _ _ _ => rfl
      intro name report tree areNames sound reached covers
      -- a written path goes on below the directory, so neither bound is used up
      have short := Written.length_lt_of_reaches reached
      rw [Path.components_ofNames areNames, List.length_map, List.length_append,
        List.length_singleton] at short
      exact ih areNames sound covers (by simp; omega) (by simp; omega)

end

/-! Reconciliations -/

/-- A reconciliation walks the source root and enters another directory only strictly above a written
path, so at a depth below the number of the components of one, and none twice. These are all the
directories that it enters, and it goes no further down than the written paths do, be there links that
lead back up: what would be done elsewhere is never done. -/
theorem reconcile_enters (overlay : Overlay) (written : Written) (suffix : String) (tree : FileTree)
    (sound : tree.Sound) :
    (∀ dir ∈ overlay.entered written suffix tree, dir = ⟨""⟩ ∨
      (∃ path ∈ written.paths,
        dir.components <+: path.components ∧ dir.components ≠ path.components) ∧
      dir.components.length < written.depth) ∧
    ((overlay.entered written suffix tree).map Path.components).Nodup ∧
    (∀ elsewhere levels, max 1 written.depth ≤ levels →
      runFrom (overlay.walkWithin written suffix (overlay.entered written suffix tree) elsewhere levels
        ⟨""⟩ {}) tree = runFrom (overlay.reconcile written suffix) tree) ∧
    ∀ report after, runFrom (overlay.reconcile written suffix) tree = (.ok report, after) →
      overlay.entered written suffix tree = ⟨""⟩ :: report.recursed := by
  have root : (⟨""⟩ : Path) = Path.ofNames [] := by simp [Path.ofNames]
  have areNames : Path.AreNames [] := List.forall_mem_nil _
  -- everything but the root itself is entered below the root
  obtain ⟨names, enters⟩ : EntersBelow written []
      (overlay.enteredBelow written suffix (written.depth + 1) ⟨""⟩ {} tree) :=
    root ▸ enteredBelow_enters areNames sound (written.depth + 1) {}
  refine ⟨?_, ?_, ?_, ?_⟩
  · refine List.forall_mem_cons.mpr ⟨.inl rfl, fun dir member => .inr ?_⟩
    have reached := enters.reached dir member
    exact ⟨Written.reaches_iff.mp reached, Written.length_lt_of_reaches reached⟩
  · refine List.nodup_cons.mpr ⟨fun again => ?_, enters.distinct⟩
    obtain ⟨path, member, same⟩ := List.mem_map.mp again
    obtain ⟨_, _, starts⟩ := enters.below path member
    rw [same, root, Path.components_ofNames areNames] at starts
    exact absurd starts.length_le (by simp)
  · intro elsewhere levels enough
    rw [reconcile, root]
    refine runFrom_walkWithin areNames sound (fun path member => ?_)
      ⟨Nat.succ_pos _, Nat.le_add_right _ _⟩ ⟨?_, ?_⟩
    · rw [entered, root, List.contains_iff_exists_mem_beq]
      exact ⟨path, member, Path.beq_iff.mpr rfl⟩
    · exact Nat.lt_of_lt_of_le (Nat.lt_of_lt_of_le Nat.one_pos (Nat.le_max_left _ _)) enough
    · exact Nat.le_trans (Nat.le_max_right _ _) enough
  · intro report after ran
    rw [entered, walkDirectory_recursed ran, List.nil_append]

/-- A source with a directory that is a link to its own parent. -/
def cycleTree : FileTree where
  entries := [
    (["src"], .directory),
    (["src", "loop"], .link "."),
    (["src", "main.go"], .file "package main
".toUTF8)]

def cycleOverlay : Overlay := ⟨⟨"/src"⟩, ⟨"/out"⟩⟩

def cycleWritten : Written := ⟨[⟨"loop/loop/f.go"⟩]⟩

theorem cycleTree_sound : cycleTree.Sound := by
  refine ⟨by decide, by decide, ?_, rfl⟩
  simp only [cycleTree, List.forall_mem_cons]
  exact ⟨rfl, rfl, rfl, List.forall_mem_nil _⟩

/-- The link is entered as often as a written path goes through it. -/
theorem reconcile_enters_cycle :
    cycleTree.Sound ∧
    (cycleOverlay.entered cycleWritten "_aspect.go" cycleTree).map Path.text =
      ["", "loop", "loop/loop"] ∧
    ∀ elsewhere levels, 3 ≤ levels →
      runFrom (cycleOverlay.walkWithin cycleWritten "_aspect.go"
        (cycleOverlay.entered cycleWritten "_aspect.go" cycleTree) elsewhere levels ⟨""⟩ {}) cycleTree =
          runFrom (cycleOverlay.reconcile cycleWritten "_aspect.go") cycleTree := by
  obtain ⟨_, _, within, _⟩ :=
    reconcile_enters cycleOverlay cycleWritten "_aspect.go" cycleTree cycleTree_sound
  have depth : max 1 cycleWritten.depth = 3 := by decide +kernel
  refine ⟨cycleTree_sound, by decide +kernel, fun elsewhere levels enough => ?_⟩
  exact within elsewhere levels (depth ▸ enough)

/-- With nothing written the source root is entered all the same, and its entries are linked. -/
theorem reconcile_enters_root :
    cycleTree.Sound ∧ ∃ dir ∈ cycleOverlay.entered {} "_aspect.go" cycleTree,
      (∀ path ∈ ({} : Written).paths, ¬ dir.components <+: path.components) ∧
      ¬ dir.components.length < ({} : Written).depth ∧
      (leaves (cycleOverlay.reconcile {} "_aspect.go") cycleTree).entryAt? ["out", "main.go"] =
        some (.link "/src/main.go") :=
  ⟨cycleTree_sound, ⟨""⟩, List.mem_cons_self, List.forall_mem_nil _, by decide, by decide +kernel⟩

end Overlay
end AspectLoom
