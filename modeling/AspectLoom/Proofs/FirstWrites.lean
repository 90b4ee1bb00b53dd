import AspectLoom.Proofs.OverlaySteps
import AspectLoom.Proofs.RootWays
import AspectLoom.Proofs.WrittenFiles
/-!
Calls that write files, one after the other, any of which may fail. The paths that count as written
are those of the calls that gave one back, and each of them holds the text of that call.
-/
namespace AspectLoom

open Actions
open FileTree (Opens)

/-! Files that stay -/

namespace FileTree

variable {before tree after : FileTree} {path : Path} {target : String}

/-- All files stay as they are. -/
def KeepsFiles (before after : FileTree) : Prop :=
  before.Sound → after.Sound ∧ ∀ place bytes, before.entryAt? place = some (.file bytes) →
    after.entryAt? place = some (.file bytes)

instance : Std.Refl KeepsFiles := ⟨fun _ sound => ⟨sound, fun _ _ => id⟩⟩

instance : IsTrans FileTree KeepsFiles where
  trans _ _ _ first second sound :=
    have middle := first sound
    have last := second middle.1
    ⟨last.1, fun place bytes stands => last.2 place bytes (middle.2 place bytes stands)⟩

theorem Opens.keepsFiles (opens : Opens before after) : KeepsFiles before after := by
  intro sound
  obtain ⟨soundAfter, _, places⟩ := opens sound
  refine ⟨soundAfter, fun place bytes stands => ?_⟩
  rcases places place with same | ⟨missing, _⟩
  · rw [same, stands]
  · rw [missing] at stands
    cases stands

/-- What is taken away was seen to be a link. -/
theorem removeFile_keepsFiles (seen : Overlay.seen tree path = .ok (some (.link target)))
    (removed : tree.removeFile path = .ok after) : KeepsFiles tree after := by
  intro sound
  obtain ⟨place, placed, link⟩ := Overlay.seen_some_iff.mp seen
  obtain ⟨other, placedAgain, noDirectory, rfl⟩ := removeFile_ok removed
  cases placed.symm.trans placedAgain
  refine ⟨sound.prune noDirectory, fun other bytes stands => ?_⟩
  rw [entryAt?_prune sound noDirectory, if_neg, stands]
  rintro rfl
  rw [link] at stands
  cases stands

end FileTree

namespace Overlay

variable {overlay : Overlay}

theorem replaceFile_keepsFiles (path : Path) (text : String) (tree : FileTree) :
    Ends (fun _ _ => True) (fun after => FileTree.KeepsFiles tree after) (replaceFile path text)
      tree := by
  have writes : ∀ tree, Ends (fun _ _ => True) (fun after => FileTree.KeepsFiles tree after)
      (fileStep path (TreeM.apply fun tree => tree.writeFile path text.toUTF8)) tree := by
    intro tree
    refine fileStep_ends ((apply_ends _ tree).imp (fun _ _ _ => trivial) ?_)
    rintro after rfl
    exact Std.Refl.refl after
  rw [replaceFile]
  refine ends_bind ((look_ends path tree).imp ?_ ?_)
  · rintro found tree ⟨rfl, seen⟩
    split
    · refine ends_bind (fileStep_ends ((apply_ends _ tree).imp ?_ ?_))
      · intro _ middle removed
        exact (writes middle).imp (fun _ _ => id)
          fun _ => IsTrans.trans _ _ _ (FileTree.removeFile_keepsFiles seen removed)
      · rintro after rfl
        exact Std.Refl.refl after
    · exact ends_bind (ends_pure (writes tree))
  · rintro after rfl
    exact Std.Refl.refl after

/-- A file that cannot be written harms no other file. -/
theorem write_keepsFiles (relative : Path) (text : String) (written : Written) (tree : FileTree) :
    Ends (fun _ _ => True) (fun after => FileTree.KeepsFiles tree after)
      ((overlay.write relative text).run written) tree := by
  have parents : Moves FileTree.KeepsFiles (Ground.ownParent overlay relative) := by
    rw [Ground.ownParent]
    split
    · exact overlay.ownDirectories_moves (fun made => (FileTree.makeDirectory_opens made).keepsFiles)
        FileTree.removeFile_keepsFiles _
    · exact moves_pure _
  rw [Ground.run_write]
  split
  · exact ends_pure trivial
  refine ends_bind ((parents.ends tree).imp ?_ fun _ => id)
  intro _ middle first
  refine ends_bind ((replaceFile_keepsFiles _ text middle).imp ?_ fun _ => IsTrans.trans _ _ _ first)
  exact fun _ _ _ => ends_pure trivial

end Overlay

/-! Calls and their answers -/

/-- A call that writes a file: a text at a relative path, or a woven unit. -/
inductive FileCall where
  | write (relative : Path) (text : String)
  | materialize (woven : WovenUnit)

namespace FileCall

/-- The file that a call is about. A unit from outside the source tree has none. -/
def file (overlay : Overlay) : FileCall → Except OverlayError (Path × String)
  | write relative text => .ok (relative, text)
  | materialize woven => (overlay.relative woven.path).map fun relative => (relative, woven.fileText)

/-- What a call answers, and what has been written and how the tree is afterwards. -/
def answer (overlay : Overlay) (call : FileCall) (state : Written × FileTree) :
    Except OverlayError (Option Path) × (Written × FileTree) :=
  match call.file overlay with
  | .error cause => (.error cause, state)
  | .ok (relative, text) =>
    match runFrom ((overlay.write relative text).run state.1) state.2 with
    | (.ok (path, written), tree) => (.ok path, (written, tree))
    | (.error cause, tree) => (.error cause, (state.1, tree))

def answerAll (overlay : Overlay) :
    List FileCall → Written × FileTree →
      List (Except OverlayError (Option Path)) × (Written × FileTree)
  | [], state => ([], state)
  | call :: calls, state =>
    let (answer, state) := call.answer overlay state
    let (answers, state) := answerAll overlay calls state
    (answer :: answers, state)

/-- The file of a call whose answer is a path. -/
def grant? (overlay : Overlay) (call : FileCall) :
    Except OverlayError (Option Path) → Option (Path × String)
  | .ok (some _) => (call.file overlay).toOption
  | .ok none => none
  | .error _ => none

/-- The files of the calls that gave a path back, in order. -/
def grants (overlay : Overlay) (calls : List FileCall)
    (answers : List (Except OverlayError (Option Path))) : List (Path × String) :=
  (calls.zip answers).filterMap fun entry => entry.1.grant? overlay entry.2

/-- The relative path of a call's file consists of names. -/
def isPlain (overlay : Overlay) (call : FileCall) : Bool :=
  match call.file overlay with
  | .ok file => file.1.isPlain
  | .error _ => true

variable {overlay : Overlay} {call : FileCall} {state : Written × FileTree}

theorem answerAll_cons (calls : List FileCall) :
    answerAll overlay (call :: calls) state =
      ((call.answer overlay state).1 :: (answerAll overlay calls (call.answer overlay state).2).1,
        (answerAll overlay calls (call.answer overlay state).2).2) := rfl

theorem grants_cons (calls : List FileCall) (answer : Except OverlayError (Option Path))
    (answers : List (Except OverlayError (Option Path))) :
    grants overlay (call :: calls) (answer :: answers) =
      (call.grant? overlay answer).toList ++ grants overlay calls answers := by
  rw [grants, List.zip_cons_cons, List.filterMap_cons]
  cases call.grant? overlay answer <;> rfl

/-- A call about a path that was written answers nothing and does nothing. -/
theorem answer_again {file : Path × String} (about : call.file overlay = .ok file)
    (again : state.1.contains file.1 = true) : call.answer overlay state = (.ok none, state) := by
  rw [answer, about]
  dsimp only
  rw [Ground.run_write, if_pos again]
  rfl

/-- A call that fails writes no path. -/
theorem answer_error {cause : OverlayError} (failed : (call.answer overlay state).1 = .error cause) :
    (call.answer overlay state).2.1 = state.1 := by
  rw [answer] at failed ⊢
  split
  · rfl
  · rename_i about
    rw [about] at failed
    dsimp only at failed ⊢
    split
    · rename_i ran
      rw [ran] at failed
      cases failed
    · rfl

end FileCall

/-! Calls over an overlay that has a ground -/

namespace Ground

open FileCall (answerAll grants)

variable {ground : Ground} {overlay : Overlay} {start tree after : FileTree}
  {granted : List (Path × String)} {state : Written × FileTree} {written : Written}

/-- The written files after a failure that has harmed none. -/
theorem Holds.fails (holds : ground.Holds overlay start granted written tree)
    (spares : ground.Spares tree after)
    (files : ∀ place bytes, tree.entryAt? place = some (.file bytes) →
      after.entryAt? place = some (.file bytes)) :
    ground.Holds overlay start granted written after where
  spares := holds.spares.trans spares
  plain := holds.plain
  given := holds.given
  first := by
    intro path member
    obtain ⟨text, found, stands⟩ := holds.first path member
    exact ⟨text, found, files _ _ stands⟩
  ready := fun path member => (holds.ready path member).later spares
  checked := holds.checked
  lands := holds.lands

/-- The files that were granted are the ones that count as written, and hold their texts. -/
structure Grants (ground : Ground) (overlay : Overlay) (start : FileTree)
    (granted : List (Path × String)) (state : Written × FileTree) : Prop extends
    ground.Holds overlay start granted state.1 state.2 where
  paths : state.1.paths = granted.map Prod.fst
  apart : granted.Pairwise fun first second => (first.1 == second.1) = false
  held : ∀ file ∈ granted,
    state.2.entryAt? (ground.place ++ file.1.names) = some (.file file.2.toUTF8)

theorem Grants.empty (ground : Ground) (overlay : Overlay) (tree : FileTree) :
    ground.Grants overlay tree [] ({}, tree) where
  toHolds := .empty tree
  paths := rfl
  apart := .nil
  held := List.forall_mem_nil _

theorem Grants.mem (kept : ground.Grants overlay start granted state) {file : Path × String}
    (member : file ∈ granted) : file.1 ∈ state.1.paths :=
  kept.paths ▸ List.mem_map_of_mem member

/-- A new file is granted where it is written. -/
theorem Grants.write (kept : ground.Grants overlay start granted state) {relative : Path}
    {text : String} (plain : relative.isPlain = true)
    (new : state.1.contains relative = false)
    (takes : ground.Takes overlay.root relative text state.2 after) :
    ground.Grants overlay start (granted ++ [(relative, text)])
      (⟨state.1.paths ++ [relative]⟩, after) where
  toHolds := kept.toHolds.write plain new takes
  paths := by rw [kept.paths, List.map_append, List.map_singleton]
  apart := by
    refine List.pairwise_append.mpr ⟨kept.apart, List.pairwise_singleton _ _, ?_⟩
    intro file member other last
    obtain rfl := List.mem_singleton.mp last
    have different := kept.toHolds.names_ne plain new (kept.mem member)
    rw [← Bool.not_eq_true]
    exact fun same =>
      different ((Path.beq_iff_names (kept.plain _ (kept.mem member)) plain).mp same)
  held := by
    obtain ⟨middle, _, writes⟩ := takes.steps
    refine List.forall_mem_append.mpr ⟨fun file member => ?_,
      List.forall_mem_singleton.mpr writes.file⟩
    exact takes.stays (kept.toHolds.names_ne plain new (kept.mem member)) (kept.held file member)

/-- One call more, whatever it answers. -/
theorem Grants.answer (stands : ground.Stands overlay.root start)
    (kept : ground.Grants overlay start granted state) (call : FileCall)
    (plain : call.isPlain overlay = true) :
    ground.Grants overlay start
      (granted ++ (call.grant? overlay (call.answer overlay state).1).toList)
      (call.answer overlay state).2 := by
  rw [FileCall.isPlain] at plain
  rw [FileCall.answer]
  cases about : call.file overlay with
  | error cause =>
      dsimp only
      rwa [FileCall.grant?, Option.toList_none, List.append_nil]
  | ok file =>
      obtain ⟨relative, text⟩ := file
      rw [about] at plain
      dsimp only at plain ⊢
      have here := stands.later kept.spares
      have ends := write_ends here plain text state.1
      have keeps := overlay.write_keepsFiles relative text state.1 state.2
      cases ran : runFrom ((overlay.write relative text).run state.1) state.2 with
      | mk result after =>
          cases result with
          | ok value =>
              rcases ends.of_ok ran with ⟨_, rfl, rfl⟩ | ⟨new, rfl, takes⟩
              · dsimp only
                rwa [FileCall.grant?, Option.toList_none, List.append_nil]
              · dsimp only
                rw [FileCall.grant?, about]
                exact kept.write plain new takes
          | error cause =>
              dsimp only
              rw [FileCall.grant?, Option.toList_none, List.append_nil]
              -- nothing is said about where the call failed, but no file was harmed up to there
              have files := (keeps.of_error ran here.sound).2
              exact ⟨kept.toHolds.fails (ends.of_error ran) files, kept.paths, kept.apart,
                fun file member => files _ _ (kept.held file member)⟩

theorem Grants.answerAll (stands : ground.Stands overlay.root start)
    (kept : ground.Grants overlay start granted state) (calls : List FileCall)
    (plain : ∀ call ∈ calls, call.isPlain overlay = true) :
    let ran := FileCall.answerAll overlay calls state
    ground.Grants overlay start (granted ++ grants overlay calls ran.1) ran.2 := by
  induction calls generalizing granted state with
  | nil =>
      intro ran
      rwa [show grants overlay [] ran.1 = [] from rfl, List.append_nil]
  | cons call calls ih =>
      obtain ⟨first, others⟩ := List.forall_mem_cons.mp plain
      have onward := ih (kept.answer stands call first) others
      rw [FileCall.answerAll_cons]
      dsimp only at onward ⊢
      rwa [FileCall.grants_cons, ← List.append_assoc]

/-- A granted file is a regular file at its path. -/
theorem Grants.entryOf (kept : ground.Grants overlay start granted state) {file : Path × String}
    (member : file ∈ granted) :
    state.2.entryOf (overlay.ofRelative file.1) = .ok (.file file.2.toUTF8) := by
  have stands := kept.held file member
  have placed := kept.toHolds.place (Spares.refl _ _) (kept.mem member) stands false
  exact FileTree.entryAt_ok_iff.mpr ⟨_, placed, stands⟩

/-! Calls over an overlay that has none -/

/-- Below a root that cannot be made all calls fail, and no directory comes that helps. -/
theorem answerAll_unreached (sound : start.Sound)
    (unreached : ∀ after, Opens start after → ¬ after.Reaches overlay.root)
    (opens : Opens start tree) (calls : List FileCall)
    (plain : ∀ call ∈ calls, call.isPlain overlay = true) :
    let ran := answerAll overlay calls ({}, tree)
    ran.2.1 = {} ∧ grants overlay calls ran.1 = [] := by
  induction calls generalizing tree with
  | nil => exact ⟨rfl, rfl⟩
  | cons call calls ih =>
      obtain ⟨first, others⟩ := List.forall_mem_cons.mp plain
      have fails : ∃ cause after, Opens tree after ∧
          call.answer overlay ({}, tree) = (.error cause, ({}, after)) := by
        rw [FileCall.isPlain] at first
        rw [FileCall.answer]
        cases about : call.file overlay with
        | error cause => exact ⟨cause, tree, Std.Refl.refl tree, rfl⟩
        | ok file =>
            obtain ⟨relative, text⟩ := file
            rw [about] at first
            have ends : Ends (fun _ _ => False) (fun after => Opens tree after)
                ((overlay.write relative text).run {}) tree :=
              write_unreached (opens sound).1
                (fun after more => unreached after (IsTrans.trans _ _ _ opens more)) first text rfl
            cases ran : runFrom ((overlay.write relative text).run {}) tree with
            | mk result after =>
                cases result with
                | ok value => exact (ends.of_ok ran).elim
                | error cause =>
                    dsimp only
                    rw [ran]
                    exact ⟨cause, after, ends.of_error ran, rfl⟩
      obtain ⟨cause, after, more, failed⟩ := fails
      obtain ⟨none, nothing⟩ := ih (IsTrans.trans _ _ _ opens more) others
      rw [FileCall.answerAll_cons]
      dsimp only
      rw [FileCall.grants_cons, failed]
      exact ⟨none, nothing⟩

end Ground

/-- A link leads to the overlay's root, and one that leads nowhere stands in it. -/
def aliasTree : FileTree where
  entries := [
    (["real"], .directory),
    (["real", "out"], .directory),
    (["real", "out", "pkg"], .link "/gone"),
    (["way"], .link "real")]

def aliasOverlay : Overlay := ⟨⟨"/src"⟩, ⟨"/way/out"⟩⟩

theorem aliasTree_sound : aliasTree.Sound where
  distinct := by decide
  named := by decide
  closed := by
    simp only [aliasTree, List.forall_mem_cons]
    exact ⟨rfl, rfl, rfl, rfl, List.forall_mem_nil _⟩
  workDir := rfl

theorem aliasTree_stands :
    Ground.Stands ⟨["real", "out"], [["real"], ["real", "out"]], [["way"]]⟩ aliasOverlay.root
      aliasTree where
  sound := aliasTree_sound
  way := by
    have segments : aliasOverlay.root.segments = ["way", "out"] := by decide +kernel
    have start : aliasTree.startOf aliasOverlay.root = [] := by decide +kernel
    have target : FileTree.steps "real" = ["real"] := by decide +kernel
    have base : FileTree.linkBase [] "real" = [] := by decide +kernel
    rw [segments, start]
    refine .through (by decide) rfl ?_
    rw [target, base]
    exact .into (by decide) nofun (.into (by decide) nofun (.stay _))
  outside := by decide
  few := by decide

/-- The second call fails at a directory and the third one at a file; the last one comes again. -/
def aliasCalls : List FileCall := [
  .write ⟨"pkg/a.go"⟩ "package a\n", .write ⟨"pkg"⟩ "", .write ⟨"pkg/a.go/b.go"⟩ "",
  .write ⟨"pkg/./b.go"⟩ "package b\n", .write ⟨"pkg//a.go"⟩ "package c\n"]

/-- A link to the directory that it is in. -/
def loopTree : FileTree where
  entries := [(["out"], .directory), (["out", "l"], .link ".")]

end AspectLoom
