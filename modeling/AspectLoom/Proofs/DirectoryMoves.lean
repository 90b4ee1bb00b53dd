import AspectLoom.Proofs.OwnDirectories
/-!
Making directories, in any relation between trees. Where it holds for one new directory and for one
link taken away, it holds between the tree before and the one after any run, be it a failing one.
-/
namespace AspectLoom

open Actions

variable {related : FileTree → FileTree → Prop}

namespace Overlay

theorem fileStep_moves {α : Type} {path : Path} {action : TreeM FileError α}
    (moves : Moves related action) : Moves related (fileStep path action) := by
  intro tree
  have begins := moves tree
  unfold leaves at begins ⊢
  rw [runFrom_fileStep]
  split <;> rename_i ran <;> rwa [ran] at begins

theorem apply_moves [Std.Refl related] {change : FileTree → Except FileError FileTree}
    (changes : ∀ {tree after}, change tree = .ok after → related tree after) :
    Moves related (TreeM.apply change) := by
  intro tree
  refine (apply_ends change tree).leaves (fun _ _ => changes) ?_
  rintro after rfl
  exact Std.Refl.refl _

end Overlay

section

variable [Std.Refl related] [IsTrans FileTree related]
  (makes : ∀ {tree after : FileTree} {path : Path}, tree.makeDirectory path = .ok after →
    related tree after)
include makes

omit [IsTrans FileTree related] in
theorem TreeM.makeOrFind_moves (path : Path) : Moves related (TreeM.makeOrFind path) := by
  intro tree
  refine (TreeM.makeOrFind_ends path tree).leaves ?_ ?_
  · rintro missing after (⟨made, _⟩ | ⟨rfl, _⟩)
    · exact makes made
    · exact Std.Refl.refl _
  · rintro after rfl
    exact Std.Refl.refl _

theorem TreeM.makeDirectoriesUpTo_moves (depth : Nat) (path : Path) :
    Moves related (TreeM.makeDirectoriesUpTo depth path) := by
  induction depth generalizing path with
  | zero => exact moves_throw _
  | succ depth ih =>
      rw [TreeM.makeDirectoriesUpTo]
      split
      · exact moves_pure _
      refine moves_bind (TreeM.makeOrFind_moves makes path) fun missing => ?_
      split
      · split
        · exact moves_throw _
        · refine moves_bind (ih _) fun _ =>
            moves_bind (TreeM.makeOrFind_moves makes path) fun missing => ?_
          split
          · exact moves_throw _
          · exact moves_pure _
      · exact moves_pure _

variable (unlinks : ∀ {tree after : FileTree} {path : Path} {target : String},
  Overlay.seen tree path = .ok (some (.link target)) → tree.removeFile path = .ok after →
    related tree after)
include unlinks

/-- A file that is taken away was seen to be a link. -/
theorem Overlay.ownDirectory_moves (path : Path) : Moves related (ownDirectory path) := by
  have unchanged : ∀ tree : FileTree, related tree tree := Std.Refl.refl
  have creates : Moves related (makeDirectory path) := fileStep_moves (apply_moves makes)
  intro tree
  have ends : Ends (fun _ after => related tree after) (fun after => related tree after)
      (ownDirectory path) tree := by
    rw [ownDirectory]
    refine ends_bind ((look_ends path tree).imp ?_ fun _ same => same ▸ unchanged tree)
    rintro found tree ⟨rfl, seen⟩
    split
    · refine ends_bind (fileStep_ends ((apply_ends _ tree).imp ?_
        fun _ same => same ▸ unchanged tree))
      intro _ middle removed
      have first : related tree middle := unlinks seen removed
      exact (creates.ends middle).imp (fun _ _ => IsTrans.trans _ _ _ first)
        fun _ => IsTrans.trans _ _ _ first
    · exact ends_pure (unchanged tree)
    · exact ends_throw (unchanged tree)
    · exact creates.ends tree
  exact ends.leaves (fun _ _ => id) fun _ => id

theorem Overlay.ownDirectories_moves (overlay : Overlay) (dir : Path) :
    Moves related (overlay.ownDirectories dir) := by
  have steps : ∀ components path, Moves related (ownDirectoriesFrom path components) := by
    intro components
    induction components with
    | nil => exact fun _ => moves_pure _
    | cons component rest ih =>
        exact fun path => moves_bind (ownDirectory_moves makes unlinks _) fun _ => ih _
  unfold ownDirectories
  refine moves_bind (fileStep_moves (TreeM.makeDirectoriesUpTo_moves makes _ _)) fun _ => ?_
  split
  · exact fileStep_moves (TreeM.makeDirectoriesUpTo_moves makes _ _)
  · exact steps _ _

end

end AspectLoom
