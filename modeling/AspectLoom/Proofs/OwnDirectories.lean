import AspectLoom.Proofs.OverlayGround
/-!
Directories of an overlay. Making the overlay's own directories spares everything off its ground, also
where it fails, and where it succeeds they are ready.
-/
namespace AspectLoom

open Actions
open FileTree (maxLinks maxNameSize steps)

/-- A path is spelled as the root with some segments behind it. -/
structure Path.Spells (root path : Path) (segments : List String) : Prop where
  absolute : path.isAbsolute = root.isAbsolute
  segments : path.segments = root.segments ++ segments

/-- A path is spelled as the first part of the root. -/
structure Path.Leads (root path : Path) : Prop where
  absolute : path.isAbsolute = root.isAbsolute
  segments : path.segments <+: root.segments

namespace Path

variable {root path : Path} {name : String} {names : List String}

theorem Leads.parent (leads : root.Leads path) {parent : Path} (found : path.parent? = some parent) :
    root.Leads parent := by
  have isParent := parent?_isParent found
  exact ⟨isParent.absolute.trans leads.absolute, isParent.segments.trans leads.segments⟩

theorem Spells.join (spells : root.Spells path names) (isName : IsName name) :
    root.Spells (path.join ⟨name⟩) (names ++ [name]) := by
  have relative := isRelative_name isName
  refine ⟨(isAbsolute_join relative).trans spells.absolute, ?_⟩
  rw [segments_join relative, spells.segments, List.append_assoc, segments_name isName]

end Path

namespace Ground

variable {ground : Ground} {root path : Path} {tree after : FileTree} {place : Place}
  {name : String} {names : List String}

theorem startOf_eq (absolute : path.isAbsolute = root.isAbsolute) :
    tree.startOf path = tree.startOf root := by
  rw [FileTree.startOf, FileTree.startOf, absolute]

/-- Only directories come: on the way to the root, and at the given names below it in the stead of
links. -/
def Makes (ground : Ground) (names : List String) (before after : FileTree) : Prop :=
  ∀ place, after.entryAt? place = before.entryAt? place ∨
    after.entryAt? place = some .directory ∧ (∀ bytes, before.entryAt? place ≠ some (.file bytes)) ∧
      (place ∈ ground.entered ∨ ∃ front, front <+: names ∧ place = ground.place ++ front)

theorem Makes.refl (ground : Ground) (names : List String) (tree : FileTree) :
    ground.Makes names tree tree := fun _ => .inl rfl

theorem Makes.trans {middle : FileTree} {more : List String} (first : ground.Makes names tree middle)
    (starts : names <+: more) (second : ground.Makes more middle after) :
    ground.Makes more tree after := by
  intro place
  have longer : (place ∈ ground.entered ∨ ∃ front, front <+: names ∧ place = ground.place ++ front) →
      (place ∈ ground.entered ∨ ∃ front, front <+: more ∧ place = ground.place ++ front) :=
    Or.imp_right fun ⟨front, within, same⟩ => ⟨front, within.trans starts, same⟩
  rcases second place with same | ⟨made, noFile, allowed⟩
  · rw [same]
    exact (first place).imp_right fun ⟨made, noFile, allowed⟩ => ⟨made, noFile, longer allowed⟩
  · rcases first place with kept | ⟨_, noFile, allowed⟩
    · exact .inr ⟨made, kept ▸ noFile, allowed⟩
    · exact .inr ⟨made, noFile, longer allowed⟩

/-- Nothing but such directories comes. -/
structure Grows (ground : Ground) (names : List String) (before after : FileTree) : Prop where
  spares : ground.Spares before after
  makes : ground.Makes names before after

/-- Directories down to the given names are the overlay's own. -/
structure Owns (ground : Ground) (root : Path) (names : List String) (before after : FileTree) : Prop
    extends ground.Grows names before after where
  ready : ground.Ready root after names

theorem Grows.refl (ground : Ground) (names : List String) (tree : FileTree) :
    ground.Grows names tree tree := ⟨Spares.refl _ _, Makes.refl _ _ _⟩

theorem Grows.trans {middle : FileTree} {more : List String} (first : ground.Grows names tree middle)
    (starts : names <+: more) (second : ground.Grows more middle after) :
    ground.Grows more tree after :=
  ⟨first.spares.trans second.spares, first.makes.trans starts second.makes⟩

theorem Owns.trans {middle : FileTree} {more : List String} (first : ground.Owns root names tree middle)
    (starts : names <+: more) (second : ground.Owns root more middle after) :
    ground.Owns root more tree after :=
  ⟨first.toGrows.trans starts second.toGrows, second.ready⟩

theorem grows_put_directory (fits : tree.Fits place) (missing : tree.entryAt? place = none)
    (allowed : place ∈ ground.entered ∨ ∃ front, front <+: names ∧ place = ground.place ++ front) :
    ground.Grows names tree (tree.put place .directory) := by
  refine ⟨spares_put_directory fits missing (allowed.imp_right ?_), ?_⟩
  · rintro ⟨front, _, rfl⟩
    exact List.prefix_append _ _
  · intro other
    rw [FileTree.entryAt?_put (FileTree.ne_nil_of_missing missing)]
    split
    · rename_i same
      subst same
      exact .inr ⟨rfl, by simp [missing], allowed⟩
    · exact .inl rfl

/-! The way to the root -/

theorem makeDirectory_grows (stands : ground.Stands root tree) (leads : root.Leads path)
    (made : tree.makeDirectory path = .ok after) : ground.Grows [] tree after := by
  have sound := stands.sound
  obtain ⟨place, walked, missing, rfl⟩ := FileTree.makeDirectory_ok sound made
  have start := FileTree.startOf_directory sound path
  have fits := FileTree.walk_fits sound _ _ _ (FileTree.arePieces_segments path) start walked
  obtain ⟨rest, split⟩ := leads.segments
  obtain ⟨middle, first, links, way, fewer⟩ := stands.way.front split.symm
  rw [startOf_eq leads.absolute] at walked start
  obtain ⟨_, member, _⟩ := way.walk_missing sound start walked missing
  exact grows_put_directory fits missing (.inl (fewer member))

theorem makeDirectory_ready (stands : ground.Stands root tree)
    (made : tree.makeDirectory root = .ok after) : ground.Ready root after [] := by
  have stands' := stands.later (makeDirectory_grows stands ⟨rfl, List.prefix_refl _⟩ made).spares
  obtain ⟨place, walked, missing, rfl⟩ := FileTree.makeDirectory_ok stands.sound made
  obtain ⟨same, _, _, others⟩ := stands.way.walk_missing stands.sound
    (FileTree.startOf_directory stands.sound root) walked missing
  have put : ∀ other, (tree.put place .directory).entryAt? other =
      if place = other then some .directory else tree.entryAt? other :=
    FileTree.entryAt?_put (FileTree.ne_nil_of_missing missing)
  refine ⟨stands', ?_, ?_⟩
  · intro other member
    rw [put]
    split
    · rfl
    · rename_i different
      exact (others other member).resolve_left (Ne.symm different)
  · rw [List.append_nil, put, if_pos same]

/-- The root is a directory where all on the way is made. -/
theorem ready_of_isDirectory (stands : ground.Stands root tree)
    (isDirectory : tree.isDirectory root = true) : ground.Ready root tree [] := by
  obtain ⟨place, placed, directory⟩ := FileTree.isDirectory_iff.mp isDirectory
  obtain ⟨_, walked⟩ := FileTree.place_ok_iff.mp placed
  have arrives : place = ground.place ∧
      ∀ place ∈ ground.entered, tree.entryAt? place = some .directory := by
    rcases Path.steps_cases root with same | same
    · rw [same] at walked
      obtain ⟨same, _, found⟩ := stands.way.walk_directory walked directory
      exact ⟨same, found⟩
    · rw [same] at walked
      obtain ⟨found, left, _, onward⟩ := stands.way.walk_onward (by simp) walked
      rw [FileTree.walk_here, FileTree.walk_nil] at onward
      exact ⟨(Except.ok.inj onward).symm, found⟩
  refine ⟨stands, arrives.2, ?_⟩
  rw [List.append_nil, ← arrives.1]
  exact directory

theorem makeOrFind_ends (stands : ground.Stands root tree) (leads : root.Leads path) :
    Ends (fun missing after => ground.Grows [] tree after ∧
        (path = root → missing = false → ground.Ready root after []))
      (fun after => after = tree) (TreeM.makeOrFind path) tree := by
  refine (TreeM.makeOrFind_ends path tree).imp ?_ fun _ => id
  rintro missing after (⟨made, _⟩ | ⟨rfl, found⟩)
  · refine ⟨makeDirectory_grows stands leads made, ?_⟩
    rintro rfl _
    exact makeDirectory_ready stands made
  · refine ⟨Grows.refl _ _ _, ?_⟩
    rintro rfl here
    exact ready_of_isDirectory stands (found here)

/-- Making directories on the way to the root, or all of them. -/
theorem makeDirectoriesUpTo_ends (stands : ground.Stands root tree) (leads : root.Leads path)
    (depth : Nat) :
    Ends (fun _ after => ground.Grows [] tree after ∧
        (path = root → root.components = [] ∨ ground.Ready root after []))
      (fun after => ground.Spares tree after) (TreeM.makeDirectoriesUpTo depth path) tree := by
  induction depth generalizing path tree with
  | zero => exact ends_throw (Spares.refl _ _)
  | succ depth ih =>
      rw [TreeM.makeDirectoriesUpTo]
      split
      · rename_i none
        refine ends_pure ⟨Grows.refl _ _ _, ?_⟩
        rintro rfl
        exact .inl (List.isEmpty_iff.mp none)
      refine ends_bind ((makeOrFind_ends stands leads).imp ?_ fun _ same => same ▸ Spares.refl _ _)
      rintro missing first ⟨grows, ready⟩
      split
      · split
        · exact ends_throw grows.spares
        · rename_i parent found
          have stands := stands.later grows.spares
          refine ends_bind ((ih stands (leads.parent found)).imp ?_ fun _ => grows.spares.trans)
          rintro _ second ⟨more, _⟩
          have grows := grows.trans (List.prefix_refl _) more
          refine ends_bind ((makeOrFind_ends (stands.later more.spares) leads).imp ?_
            fun _ same => same ▸ grows.spares)
          rintro missing third ⟨more, ready⟩
          have grows := grows.trans (List.prefix_refl _) more
          split
          · exact ends_throw grows.spares
          · rename_i found
            exact ends_pure ⟨grows, fun same => .inr (ready same (by simpa using found))⟩
      · rename_i found
        exact ends_pure ⟨grows, fun same => .inr (ready same (by simpa using found))⟩

/-- The empty path is where its walk starts. -/
theorem ready_of_no_components (stands : ground.Stands root tree) (none : root.components = []) :
    ground.Ready root tree [] := by
  have way := stands.way
  rw [Path.segments_of_no_components none] at way
  obtain ⟨same, entered, _⟩ := way.stays
  refine ⟨stands, ?_, ?_⟩
  · rw [entered]
    exact List.forall_mem_nil _
  · rw [List.append_nil, same]
    exact FileTree.startOf_directory stands.sound root

theorem makeDirectories_ends (stands : ground.Stands root tree) :
    Ends (fun _ after => ground.Owns root [] tree after) (fun after => ground.Spares tree after)
      (TreeM.makeDirectories root) tree := by
  refine (makeDirectoriesUpTo_ends stands ⟨rfl, List.prefix_refl _⟩ _).imp ?_ fun _ => id
  rintro _ after ⟨grows, ready⟩
  refine ⟨grows, (ready rfl).elim ?_ id⟩
  exact fun none => ready_of_no_components (stands.later grows.spares) none

/-! Directories below the root -/

/-- A path that goes from a ready directory to a name leads to its place there. -/
theorem Ready.place_join (ready : ground.Ready root tree names) (spells : root.Spells path names)
    (isName : Path.IsName name) {follow : Bool}
    (stays : follow = true → ∀ target,
      tree.entryAt? (ground.place ++ names ++ [name]) ≠ some (.link target))
    (placed : tree.place follow (path.join ⟨name⟩) = .ok place) :
    place = ground.place ++ names ++ [name] := by
  obtain ⟨_, walked⟩ := FileTree.place_ok_iff.mp placed
  have absolute : (path.join ⟨name⟩).isAbsolute = root.isAbsolute :=
    (Path.isAbsolute_join (Path.isRelative_name isName)).trans spells.absolute
  rw [startOf_eq absolute, Path.steps_join_name isName, spells.segments, List.append_assoc,
    ready.walk (.inl (List.cons_ne_nil _ _)), FileTree.walk_last isName.2.2 stays] at walked
  split at walked
  · cases walked
  · exact (Except.ok.inj walked).symm

end Ground

namespace Overlay

variable {tree : FileTree} {path : Path}

theorem runFrom_fileStep {α : Type} (path : Path) (action : TreeM FileError α) (tree : FileTree) :
    runFrom (fileStep path action) tree =
      match runFrom action tree with
      | (.ok value, after) => (.ok value, after)
      | (.error cause, after) => (.error (.file path cause), after) := by
  rw [fileStep, TreeM.runFrom_mapError]
  cases runFrom action tree with
  | mk result after => cases result <;> rfl

theorem fileStep_ends {α : Type} {success : α → FileTree → Prop} {failure : FileTree → Prop}
    {action : TreeM FileError α} (ends : Ends success failure action tree) :
    Ends success failure (fileStep path action) tree := by
  have ran := runFrom_fileStep path action tree
  cases first : runFrom action tree with
  | mk result after =>
      rw [first] at ran
      cases result with
      | ok value =>
          exact ends_of_ran ran (fun _ same => Except.ok.inj same ▸ ends.of_ok first)
            fun _ same => nomatch same
      | error cause =>
          exact ends_of_ran ran (fun _ same => nomatch same) fun _ _ => ends.of_error first

theorem apply_ends (change : FileTree → Except FileError FileTree) (tree : FileTree) :
    Ends (fun _ after => change tree = .ok after) (fun after => after = tree)
      (TreeM.apply change) tree := by
  have ran := TreeM.runFrom_apply change tree
  cases changed : change tree with
  | ok after =>
      rw [changed] at ran
      exact ends_of_ran ran (fun _ _ => rfl) fun _ same => nomatch same
  | error cause =>
      rw [changed] at ran
      exact ends_of_ran ran (fun _ same => nomatch same) fun _ _ => rfl

/-- What `look` answers. -/
def seen (tree : FileTree) (path : Path) : Except OverlayError (Option Entry) :=
  match tree.entryOf path with
  | .ok entry => .ok (some entry)
  | .error .notFound => .ok none
  | .error cause => .error (.file path cause)

theorem runFrom_look (path : Path) (tree : FileTree) :
    runFrom (look path) tree = (seen tree path, tree) := by
  rw [look, runFrom_fileStep, runFrom_bind, runFrom_get, seen]
  dsimp only
  cases tree.entryOf path with
  | ok entry => rfl
  | error cause => cases cause <;> rfl

theorem seen_some_iff {entry : Entry} : seen tree path = .ok (some entry) ↔
    ∃ place, tree.place false path = .ok place ∧ tree.entryAt? place = some entry := by
  rw [← FileTree.entryAt_ok_iff, seen]
  change _ ↔ tree.entryOf path = _
  cases tree.entryOf path with
  | ok found => simp
  | error cause => cases cause <;> simp

theorem look_ends (path : Path) (tree : FileTree) :
    Ends (fun found after => after = tree ∧ seen tree path = .ok found) (fun after => after = tree)
      (look path) tree :=
  ends_of_ran (runFrom_look path tree) (fun _ same => ⟨rfl, same⟩) fun _ _ => rfl

end Overlay

namespace Ground

variable {ground : Ground} {root path : Path} {tree after : FileTree} {place : Place}
  {name : String} {names : List String}

theorem below_starts (ground : Ground) (names : List String) (name : String) :
    ground.place <+: ground.place ++ names ++ [name] := by
  rw [List.append_assoc]
  exact List.prefix_append _ _

/-- A directory made in one that is ready. -/
theorem Ready.makeDirectory (ready : ground.Ready root tree names) (spells : root.Spells path names)
    (isName : Path.IsName name) (made : tree.makeDirectory (path.join ⟨name⟩) = .ok after) :
    ground.Owns root (names ++ [name]) tree after := by
  have sound := ready.stands.sound
  have joined := spells.join isName
  obtain ⟨place, walked, missing, rfl⟩ := FileTree.makeDirectory_ok sound made
  have fits := FileTree.walk_fits sound _ _ _ (FileTree.arePieces_segments _)
    (FileTree.startOf_directory sound _) walked
  have here : place = ground.place ++ names ++ [name] := by
    rw [startOf_eq joined.absolute, joined.segments, ready.walk (.inl (List.cons_ne_nil _ _)),
      FileTree.walk_last isName.2.2 (by simp)] at walked
    split at walked
    · cases walked
    · exact (Except.ok.inj walked).symm
  have grows : ground.Grows (names ++ [name]) tree (tree.put place .directory) :=
    grows_put_directory fits missing
      (.inr ⟨_, List.prefix_refl _, by rw [here, List.append_assoc]⟩)
  have put : ∀ other, (tree.put place .directory).entryAt? other =
      if place = other then some .directory else tree.entryAt? other :=
    FileTree.entryAt?_put (FileTree.ne_nil_of_missing missing)
  refine ⟨grows, ready.stands.later grows.spares, (ready.later grows.spares).entered, ?_⟩
  rw [put, if_pos (by rw [here, List.append_assoc])]

/-- A link taken away in the overlay. -/
theorem Ready.removeFile (ready : ground.Ready root tree names) (spells : root.Spells path names)
    (isName : Path.IsName name) (removed : tree.removeFile (path.join ⟨name⟩) = .ok after) :
    ground.Spares tree after ∧ tree.entryAt? (ground.place ++ names ++ [name]) ≠ some .directory ∧
      ∀ other, after.entryAt? other =
        if ground.place ++ names ++ [name] = other then none else tree.entryAt? other := by
  obtain ⟨place, placed, noDirectory, rfl⟩ := FileTree.removeFile_ok removed
  have here := ready.place_join spells isName (by simp) placed
  subst here
  have root : ground.Ready root tree [] := Ready.above ready
  exact ⟨root.spares_prune noDirectory (below_starts ground names name), noDirectory,
    FileTree.entryAt?_prune ready.stands.sound noDirectory⟩

/-- One step of the way down. -/
theorem ownDirectory_ends (ready : ground.Ready root tree names) (spells : root.Spells path names)
    (isName : Path.IsName name) :
    Ends (fun _ after => ground.Owns root (names ++ [name]) tree after)
      (fun after => ground.Spares tree after) (Overlay.ownDirectory (path.join ⟨name⟩)) tree := by
  have unchanged := Spares.refl ground tree
  rw [Overlay.ownDirectory]
  refine ends_bind ((Overlay.look_ends _ tree).imp ?_ fun _ same => same ▸ unchanged)
  rintro found tree ⟨rfl, seen⟩
  have made : Ends (fun _ after => ground.Owns root (names ++ [name]) tree after)
      (fun after => ground.Spares tree after) (Overlay.makeDirectory (path.join ⟨name⟩)) tree := by
    rw [Overlay.makeDirectory]
    refine Overlay.fileStep_ends ((Overlay.apply_ends _ tree).imp ?_ fun _ same => same ▸ unchanged)
    exact fun _ _ made => ready.makeDirectory spells isName made
  split
  · rename_i target
    rw [Overlay.seen_some_iff] at seen
    obtain ⟨place, placed, link⟩ := seen
    have here := ready.place_join spells isName (by simp) placed
    subst here
    rw [Overlay.removeFile]
    refine ends_bind (Overlay.fileStep_ends ((Overlay.apply_ends _ tree).imp ?_
      fun _ same => same ▸ unchanged))
    intro _ first removed
    obtain ⟨spares, _, rest⟩ := ready.removeFile spells isName removed
    rw [Overlay.makeDirectory]
    refine Overlay.fileStep_ends ((Overlay.apply_ends _ first).imp ?_ fun _ same => same ▸ spares)
    intro _ second made
    have owns := (ready.later spares).makeDirectory spells isName made
    refine ⟨⟨spares.trans owns.spares, ?_⟩, owns.ready⟩
    intro other
    by_cases same : ground.place ++ names ++ [name] = other
    · subst same
      have noFile : ∀ bytes, tree.entryAt? (ground.place ++ names ++ [name]) ≠ some (.file bytes) := by
        rw [link]
        simp
      refine .inr ⟨?_, noFile, .inr ⟨_, List.prefix_refl _, List.append_assoc ..⟩⟩
      rw [List.append_assoc]
      exact owns.ready.directory
    · have kept := owns.makes other
      rwa [rest, if_neg same] at kept
  · rw [Overlay.seen_some_iff] at seen
    obtain ⟨place, placed, directory⟩ := seen
    have here := ready.place_join spells isName (by simp) placed
    subst here
    rw [List.append_assoc] at directory
    exact ends_pure ⟨Grows.refl _ _ _, ready.stands, ready.entered, directory⟩
  · exact ends_throw unchanged
  · exact made

theorem ownDirectoriesFrom_ends (ready : ground.Ready root tree names)
    (spells : root.Spells path names) {rest : List String} (areNames : Path.AreNames rest) :
    Ends (fun _ after => ground.Owns root (names ++ rest) tree after)
      (fun after => ground.Spares tree after)
      (Overlay.ownDirectoriesFrom path (rest.map .name)) tree := by
  induction rest generalizing path names tree with
  | nil =>
      rw [List.append_nil]
      exact ends_pure ⟨Grows.refl _ _ _, ready⟩
  | cons name rest ih =>
      obtain ⟨isName, others⟩ := List.forall_mem_cons.mp areNames
      rw [List.map_cons, Overlay.ownDirectoriesFrom]
      refine ends_bind ((ownDirectory_ends ready spells isName).imp ?_ fun _ => id)
      intro _ middle owns
      refine (ih owns.ready (spells.join isName) others).imp ?_ fun _ => owns.spares.trans
      intro _ last more
      rw [List.append_assoc] at more
      exact owns.trans ((List.prefix_append_right_inj names).mpr (by simp)) more

end Ground
end AspectLoom
