import AspectLoom.Proofs.DirectoryMoves
import AspectLoom.Proofs.OverlayWrites
/-!
Roots that can be made. Making the directories of a root only puts directories where nothing stood,
and where it succeeds there is a way to the root, which was there before. Without one no file is
written.
-/
namespace AspectLoom

open Actions
open FileTree (maxLinks steps)

namespace FileTree

variable {before tree after : FileTree} {path root : Path} {start stop next : Place}
  {pieces : List String} {entered crossed : List Place}

/-! Directories that come -/

/-- Nothing comes but directories where nothing stood. -/
def Opens (before after : FileTree) : Prop :=
  before.Sound → after.Sound ∧ after.workDir = before.workDir ∧
    ∀ place, after.entryAt? place = before.entryAt? place ∨
      before.entryAt? place = none ∧ after.entryAt? place = some .directory

instance : Std.Refl Opens := ⟨fun _ sound => ⟨sound, rfl, fun _ => .inl rfl⟩⟩

instance : IsTrans FileTree Opens where
  trans first middle last begins ends sound := by
    obtain ⟨soundMiddle, sameDir, early⟩ := begins sound
    obtain ⟨soundLast, lastDir, late⟩ := ends soundMiddle
    refine ⟨soundLast, lastDir.trans sameDir, fun place => ?_⟩
    rcases late place with same | ⟨missing, made⟩
    · rw [same]
      exact early place
    · rcases early place with same | ⟨_, directory⟩
      · exact .inr ⟨same ▸ missing, made⟩
      · rw [directory] at missing
        cases missing

theorem makeDirectory_opens (made : tree.makeDirectory path = .ok after) : Opens tree after := by
  intro sound
  obtain ⟨place, walked, missing, rfl⟩ := makeDirectory_ok sound made
  have fits := walk_fits sound _ _ _ (arePieces_segments path) (startOf_directory sound path) walked
  refine ⟨sound.put fits (by simp [missing]), rfl, fun other => ?_⟩
  rw [entryAt?_put (ne_nil_of_missing missing)]
  split
  · rename_i same
    exact .inr ⟨same ▸ missing, rfl⟩
  · exact .inl rfl

/-- A way stays where only directories come. -/
theorem Opens.way (opens : Opens before after) (sound : before.Sound) :
    before.Way start pieces stop entered crossed ↔ after.Way start pieces stop entered crossed := by
  obtain ⟨_, _, places⟩ := opens sound
  -- a directory that comes neither is a link nor hides one, so no step of a way goes elsewhere
  constructor
  · intro way
    refine way.transport (fun place member target link => ?_) fun place member => ?_
    · rcases places place with same | ⟨_, made⟩
      · exact way.noLink member target (same ▸ link)
      · rw [made] at link
        cases link
    · refine (places place).resolve_right fun ⟨missing, _⟩ => ?_
      obtain ⟨target, link⟩ := way.link member
      rw [link] at missing
      cases missing
  · intro way
    refine way.transport (fun place member target link => ?_) fun place member => ?_
    · rcases places place with same | ⟨missing, _⟩
      · exact way.noLink member target (same.trans link)
      · rw [missing] at link
        cases link
    · refine ((places place).resolve_right fun ⟨_, made⟩ => ?_).symm
      obtain ⟨target, link⟩ := way.link member
      rw [made] at link
      cases link

theorem Opens.startOf (opens : Opens before after) (sound : before.Sound) (path : Path) :
    after.startOf path = before.startOf path := by
  rw [FileTree.startOf, FileTree.startOf, (opens sound).2.1]

/-! Ways that walks have gone -/

/-- A walk to a directory, or to a place where one can be made, goes a way. -/
theorem exists_way {follow : Bool} {links : Nat}
    (walked : tree.walk follow links start pieces = .ok next)
    (ends : tree.entryAt? next = none ∨ tree.entryAt? next = some .directory) :
    ∃ entered crossed, tree.Way start pieces next entered crossed ∧ crossed.length ≤ links := by
  induction links, start, pieces using walk_induction with
  | stay links place =>
      cases (walk_nil ..).symm.trans walked
      exact ⟨[], [], .stay _, Nat.zero_le _⟩
  | step links place piece rest ih behind =>
      rcases piece_cases piece with rfl | rfl | isStep
      · obtain ⟨entered, crossed, way, few⟩ := ih place (walk_here .. ▸ walked)
        exact ⟨entered, crossed, .here way, few⟩
      · obtain ⟨entered, crossed, way, few⟩ := ih _ (walk_up .. ▸ walked)
        exact ⟨entered, crossed, .up way, few⟩
      · -- the walk stops here, goes into a directory, or follows a link, which leaves it one fewer
        obtain ⟨_, ⟨rfl, rfl, stops, _⟩ | ⟨directory, onward⟩ | ⟨target, fewer, link, rfl, onward⟩⟩ :=
          walk_step_ok isStep walked
        · have missing := ends.resolve_right stops
          exact ⟨_, [], .into isStep (by simp [missing]) (.stay _), Nat.zero_le _⟩
        · obtain ⟨entered, crossed, way, few⟩ := ih _ onward
          exact ⟨_, crossed, .into isStep (by simp [directory]) way, few⟩
        · obtain ⟨entered, crossed, way, few⟩ := behind fewer (Nat.lt_succ_self _) _ _ onward
          exact ⟨entered, _, .through isStep link way, Nat.succ_le_succ few⟩

/-- There is one way at most over the same pieces. -/
theorem Way.unique {last : Place} {others more : List Place}
    (way : tree.Way start pieces stop entered crossed)
    (other : tree.Way start pieces last others more) :
    last = stop ∧ others = entered ∧ more = crossed := by
  induction way generalizing last others more with
  | stay place => exact other.stays
  | here onward ih =>
      generalize here : "." = piece at other
      cases other with
      | here other => exact ih other
      | up => exact absurd here (by decide)
      | into isStep => exact absurd here.symm isStep.1
      | through isStep => exact absurd here.symm isStep.1
  | up onward ih =>
      generalize up : ".." = piece at other
      cases other with
      | here => exact absurd up (by decide)
      | up other => exact ih other
      | into isStep => exact absurd up.symm isStep.2
      | through isStep => exact absurd up.symm isStep.2
  | into isStep noLink onward ih =>
      cases other with
      | here => exact absurd rfl isStep.1
      | up => exact absurd rfl isStep.2
      | into _ _ other =>
          obtain ⟨same, sameEntered, sameCrossed⟩ := ih other
          exact ⟨same, congrArg _ sameEntered, sameCrossed⟩
      | through _ link => exact absurd link (noLink _)
  | through isStep link onward ih =>
      cases other with
      | here => exact absurd rfl isStep.1
      | up => exact absurd rfl isStep.2
      | into _ noLink => exact absurd link (noLink _)
      | through _ again other =>
          rw [link] at again
          cases again
          obtain ⟨same, sameEntered, sameCrossed⟩ := ih other
          exact ⟨same, sameEntered, congrArg _ sameCrossed⟩

/-- There is a way to a path, with no more links than a walk can follow. -/
def Reaches (tree : FileTree) (path : Path) : Prop :=
  ∃ stop entered crossed, tree.Way (tree.startOf path) path.segments stop entered crossed ∧
    crossed.length ≤ maxLinks

theorem reaches_of_makeDirectory (sound : tree.Sound) (made : tree.makeDirectory path = .ok after) :
    after.Reaches path := by
  have opens := makeDirectory_opens made
  obtain ⟨place, walked, missing, _⟩ := makeDirectory_ok sound made
  obtain ⟨entered, crossed, way, few⟩ := exists_way walked (.inl missing)
  rw [Reaches, opens.startOf sound]
  exact ⟨place, entered, crossed, (opens.way sound).mp way, few⟩

theorem reaches_of_isDirectory (isDirectory : tree.isDirectory path = true) : tree.Reaches path := by
  obtain ⟨place, placed, directory⟩ := isDirectory_iff.mp isDirectory
  obtain ⟨_, walked⟩ := place_ok_iff.mp placed
  have arrives : tree.walk true maxLinks (tree.startOf path) path.segments = .ok place := by
    rcases Path.steps_cases path with same | same
    · exact same ▸ walked
    · exact walk_of_dot (same ▸ walked)
  obtain ⟨entered, crossed, way, few⟩ := exists_way arrives (.inr directory)
  exact ⟨place, entered, crossed, way, few⟩

theorem reaches_of_no_components (none : path.components = []) : tree.Reaches path := by
  rw [Reaches, Path.segments_of_no_components none]
  exact ⟨_, [], [], .stay _, Nat.zero_le _⟩

end FileTree

open FileTree (Opens)

namespace TreeM

theorem makeOrFind_reaches {tree : FileTree} (sound : tree.Sound) (path : Path) :
    Ends (fun missing after => Opens tree after ∧ (missing = false → after.Reaches path))
      (fun after => Opens tree after) (makeOrFind path) tree := by
  refine (makeOrFind_ends path tree).imp ?_ ?_
  · rintro missing after (⟨made, rfl⟩ | ⟨rfl, found⟩)
    · exact ⟨FileTree.makeDirectory_opens made,
        fun _ => FileTree.reaches_of_makeDirectory sound made⟩
    · exact ⟨Std.Refl.refl after, fun here => FileTree.reaches_of_isDirectory (found here)⟩
  · rintro after rfl
    exact Std.Refl.refl after

/-- Directories that can be made are reached. -/
theorem makeDirectories_reaches {tree : FileTree} (sound : tree.Sound) (path : Path) :
    Ends (fun _ after => Opens tree after ∧ after.Reaches path) (fun after => Opens tree after)
      (makeDirectories path) tree := by
  rw [makeDirectories, makeDirectoriesUpTo]
  split
  · rename_i none
    exact ends_pure ⟨Std.Refl.refl tree,
      FileTree.reaches_of_no_components (List.isEmpty_iff.mp none)⟩
  refine ends_bind ((makeOrFind_reaches sound path).imp ?_ fun _ => id)
  rintro missing first ⟨opens, reaches⟩
  split
  · split
    · exact ends_throw opens
    · rename_i parent _
      -- the path is made once the directories above it are
      have above := makeDirectoriesUpTo_moves FileTree.makeDirectory_opens
        path.components.length parent
      refine ends_bind ((above.ends first).imp ?_ fun _ => IsTrans.trans _ _ _ opens)
      intro _ second more
      have opens : Opens tree second := IsTrans.trans _ _ _ opens more
      refine ends_bind ((makeOrFind_reaches (opens sound).1 path).imp ?_
        fun _ => IsTrans.trans _ _ _ opens)
      rintro missing third ⟨more, reaches⟩
      have opens : Opens tree third := IsTrans.trans _ _ _ opens more
      split
      · exact ends_throw opens
      · rename_i found
        exact ends_pure ⟨opens, reaches (by simpa using found)⟩
  · rename_i found
    exact ends_pure ⟨opens, reaches (by simpa using found)⟩

end TreeM

/-! Roots with and without a ground -/

/-- No link on the way to a path lies in the place that it leads to. -/
def FileTree.LinksOutside (tree : FileTree) (path : Path) : Prop :=
  ∀ stop entered crossed, tree.Way (tree.startOf path) path.segments stop entered crossed →
    ∀ link ∈ crossed, ¬ stop <+: link

namespace Ground

variable {overlay : Overlay} {root relative : Path} {start tree : FileTree}

theorem Stands.linksOutside {ground : Ground} (stands : ground.Stands root tree) :
    tree.LinksOutside root := by
  intro stop entered crossed way
  obtain ⟨rfl, _, rfl⟩ := stands.way.unique way
  exact stands.outside

/-- A root that is reached once directories have come has its ground from the start. -/
theorem exists_stands (sound : start.Sound) (outside : start.LinksOutside root)
    (opens : Opens start tree) (reaches : tree.Reaches root) :
    ∃ ground : Ground, ground.Stands root start := by
  obtain ⟨stop, entered, crossed, way, few⟩ := reaches
  rw [opens.startOf sound, ← opens.way sound] at way
  exact ⟨⟨stop, entered, crossed⟩, sound, way, outside stop entered crossed way, few⟩

section
variable (sound : tree.Sound) (unreached : ∀ after, Opens tree after → ¬ after.Reaches overlay.root)
include sound unreached

theorem ownDirectories_unreached (dir : Path) :
    Ends (fun _ _ => False) (fun after => Opens tree after) (overlay.ownDirectories dir) tree := by
  rw [Overlay.ownDirectories]
  refine ends_bind (Overlay.fileStep_ends
    ((TreeM.makeDirectories_reaches sound overlay.root).imp ?_ fun _ => id))
  rintro _ after ⟨opens, reaches⟩
  exact absurd reaches (unreached after opens)

/-- Nothing is written below a root that cannot be made. -/
theorem write_unreached (plain : relative.isPlain = true) (text : String) {written : Written}
    (new : written.contains relative = false) :
    Ends (fun _ _ => False) (fun after => Opens tree after)
      ((overlay.write relative text).run written) tree := by
  rw [run_write, new, if_neg Bool.false_ne_true, ownParent]
  cases found : (overlay.ofRelative relative).parent? with
  | some parent =>
      exact ends_bind ((ownDirectories_unreached sound unreached parent).imp
        (fun _ _ never => never.elim) fun _ => id)
  | none =>
      rcases Path.isPlain_cases plain with spelled | ⟨front, name, _, _, _, _, names⟩
      · have isRelative := (Path.segments_of_isPlain plain).1
        refine ends_bind (ends_pure (ends_bind ((replaceFile_fails sound (spelled.join isRelative)
          text).imp (fun _ _ never => never.elim) ?_)))
        rintro after rfl
        exact Std.Refl.refl after
      · -- a path that ends with a name has a parent
        have components : (overlay.root.join relative).components = _ :=
          Path.components_join_plain plain
        rw [names, List.map_append, List.map_singleton, ← List.append_assoc] at components
        obtain ⟨parent, some⟩ := Path.parent?_isSome components
        rw [Overlay.ofRelative, some] at found
        cases found

end

end Ground
end AspectLoom
