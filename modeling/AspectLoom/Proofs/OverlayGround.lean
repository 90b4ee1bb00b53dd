import AspectLoom.Overlay.Written
import AspectLoom.Proofs.TreeChanges
import AspectLoom.Proofs.Ways
/-!
The ground of an overlay: the place that its root has or will have, with the way there. A change spares
what is off the ground when it only makes directories on that way.
-/
namespace AspectLoom

open FileTree (IsStep isEntryName maxLinks maxNameSize steps)

/-- Where an overlay's root is or will be. -/
structure Ground where
  place : Place
  /-- The places on the way there, made or not. -/
  entered : List Place
  /-- The links on the way there. -/
  crossed : List Place
deriving DecidableEq

namespace Ground

/-- A root has its ground. No link on the way there is in the ground itself. -/
structure Stands (ground : Ground) (root : Path) (tree : FileTree) : Prop where
  sound : tree.Sound
  way : tree.Way (tree.startOf root) root.segments ground.place ground.entered ground.crossed
  outside : ∀ place ∈ ground.crossed, ¬ ground.place <+: place
  few : ground.crossed.length ≤ maxLinks

/-- Off the ground nothing changes but that missing directories on the way there may be made. -/
structure Spares (ground : Ground) (before after : FileTree) : Prop where
  sound : before.Sound → after.Sound
  workDir : after.workDir = before.workDir
  outside : ∀ place, ¬ ground.place <+: place →
    after.entryAt? place = before.entryAt? place ∨
      place ∈ ground.entered ∧ before.entryAt? place = none ∧
        after.entryAt? place = some .directory
  entered : ∀ place ∈ ground.entered,
    after.entryAt? place = before.entryAt? place ∨ after.entryAt? place = some .directory
  directories : ∀ place, before.entryAt? place = some .directory →
    after.entryAt? place = some .directory

/-- The way to the root is made, and a directory of the overlay, given by names below the root. -/
structure Ready (ground : Ground) (root : Path) (tree : FileTree) (names : List String) : Prop where
  stands : ground.Stands root tree
  entered : ∀ place ∈ ground.entered, tree.entryAt? place = some .directory
  directory : tree.entryAt? (ground.place ++ names) = some .directory

variable {ground : Ground} {root path : Path} {before middle after tree : FileTree} {place : Place}
  {names : List String} {entry : Entry}

theorem Spares.refl (ground : Ground) (tree : FileTree) : ground.Spares tree tree :=
  ⟨id, rfl, fun _ _ => .inl rfl, fun _ _ => .inl rfl, fun _ => id⟩

theorem Spares.trans (first : ground.Spares before middle) (second : ground.Spares middle after) :
    ground.Spares before after := by
  refine ⟨second.sound ∘ first.sound, second.workDir.trans first.workDir, ?_, ?_,
    fun place directory => second.directories place (first.directories place directory)⟩
  · intro place off
    rcases first.outside place off with same | ⟨member, missing, made⟩
    · rw [← same]
      exact second.outside place off
    · exact .inr ⟨member, missing, second.directories place made⟩
  · intro place member
    rcases second.entered place member with same | made
    · rcases first.entered place member with kept | made
      · exact .inl (same.trans kept)
      · exact .inr (same.trans made)
    · exact .inr made

/-- A ground stays the root's ground. -/
theorem Stands.later (stands : ground.Stands root before) (spares : ground.Spares before after) :
    ground.Stands root after := by
  refine ⟨spares.sound stands.sound, ?_, stands.outside, stands.few⟩
  have start : after.startOf root = before.startOf root := by
    rw [FileTree.startOf, FileTree.startOf, spares.workDir]
  rw [start]
  refine stands.way.transport ?_ ?_
  · intro place member target link
    rcases spares.entered place member with same | made
    · exact stands.way.noLink member target (same ▸ link)
    · rw [made] at link
      cases link
  · intro place member
    rcases spares.outside place (stands.outside place member) with same | ⟨_, missing, _⟩
    · exact same
    · obtain ⟨target, link⟩ := stands.way.link member
      rw [link] at missing
      cases missing

theorem Ready.later (ready : ground.Ready root before names) (spares : ground.Spares before after) :
    ground.Ready root after names :=
  ⟨ready.stands.later spares, fun place member => spares.directories place (ready.entered place member),
    spares.directories _ ready.directory⟩

/-- What is above a directory that is ready is ready. -/
theorem Ready.above {rest : List String} (ready : ground.Ready root tree (names ++ rest)) :
    ground.Ready root tree names := by
  refine ⟨ready.stands, ready.entered, ?_⟩
  by_cases same : rest = []
  · subst same
    rw [← List.append_nil names]
    exact ready.directory
  · refine ready.stands.sound.above ?_ ?_ ready.directory
    · rw [← List.append_assoc]
      exact List.prefix_append _ _
    · intro equal
      rw [← List.append_assoc] at equal
      exact same (List.self_eq_append_right.mp equal)

/-- A walk below the root goes on from the directory that is ready, with the links that are left. -/
theorem Ready.walk_onward (ready : ground.Ready root tree names) {follow : Bool} {rest : List String}
    (goes : rest ≠ [] ∨ follow = true) (left : Nat) :
    tree.walk follow (left + ground.crossed.length) (tree.startOf root)
        (root.segments ++ (names ++ rest)) =
      tree.walk follow left (ground.place ++ names) rest := by
  rw [ready.stands.way.walk_along ready.stands.sound ready.entered
    (goes.imp_left fun more => by simp [more])]
  refine FileTree.walk_down ready.stands.sound names ?_ rest
  rintro front ⟨others, rfl⟩ _
  exact ready.above.directory

theorem Ready.walk (ready : ground.Ready root tree names) {follow : Bool} {rest : List String}
    (goes : rest ≠ [] ∨ follow = true) :
    tree.walk follow maxLinks (tree.startOf root) (root.segments ++ (names ++ rest)) =
      tree.walk follow (maxLinks - ground.crossed.length) (ground.place ++ names) rest := by
  have along := ready.walk_onward goes (maxLinks - ground.crossed.length)
  rwa [Nat.sub_add_cancel ready.stands.few] at along

/-! Single changes -/

theorem spares_put_directory (fits : tree.Fits place) (missing : tree.entryAt? place = none)
    (allowed : place ∈ ground.entered ∨ ground.place <+: place) :
    ground.Spares tree (tree.put place .directory) := by
  have filled := FileTree.ne_nil_of_missing missing
  have noDirectory : tree.entryAt? place ≠ some .directory := by simp [missing]
  refine ⟨fun sound => sound.put fits noDirectory, rfl, ?_, ?_, ?_⟩
  · intro other off
    rw [FileTree.entryAt?_put filled]
    split
    · rename_i same
      subst same
      exact .inr ⟨allowed.resolve_right off, missing, rfl⟩
    · exact .inl rfl
  · intro other _
    rw [FileTree.entryAt?_put filled]
    split
    · exact .inr rfl
    · exact .inl rfl
  · intro other directory
    rw [FileTree.entryAt?_put filled]
    split
    · rfl
    · exact directory

/-- What stands in the ground may be changed once the way there is made. -/
theorem Ready.spares_put (ready : ground.Ready root tree []) (fits : tree.Fits place)
    (noDirectory : tree.entryAt? place ≠ some .directory) (inside : ground.place <+: place) :
    ground.Spares tree (tree.put place entry) := by
  have filled := FileTree.ne_nil_of_ne_directory noDirectory
  have kept : ∀ {other}, tree.entryAt? other = some .directory →
      (tree.put place entry).entryAt? other = some .directory := by
    intro other directory
    rw [FileTree.entryAt?_put filled, if_neg, directory]
    rintro rfl
    exact noDirectory directory
  refine ⟨fun sound => sound.put fits noDirectory, rfl, ?_, ?_, fun other => kept⟩
  · intro other off
    rw [FileTree.entryAt?_put filled, if_neg]
    · exact .inl rfl
    · rintro rfl
      exact off inside
  · exact fun other member => .inr (kept (ready.entered other member))

theorem Ready.spares_prune (ready : ground.Ready root tree [])
    (noDirectory : tree.entryAt? place ≠ some .directory) (inside : ground.place <+: place) :
    ground.Spares tree (tree.prune place) := by
  have sound := ready.stands.sound
  have kept : ∀ {other}, tree.entryAt? other = some .directory →
      (tree.prune place).entryAt? other = some .directory := by
    intro other directory
    rw [FileTree.entryAt?_prune sound noDirectory, if_neg, directory]
    rintro rfl
    exact noDirectory directory
  refine ⟨fun sound => sound.prune noDirectory, rfl, ?_, ?_, fun other => kept⟩
  · intro other off
    rw [FileTree.entryAt?_prune sound noDirectory, if_neg]
    · exact .inl rfl
    · rintro rfl
      exact off inside
  · exact fun other member => .inr (kept (ready.entered other member))

end Ground

end AspectLoom
