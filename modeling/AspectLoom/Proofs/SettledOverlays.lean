import AspectLoom.Proofs.ReconcileSteps
/-!
Overlays that are settled. Making directories that are there changes nothing, and what a successful
reconciliation has come across is still there when it ends.
-/
namespace AspectLoom

open Actions
open FileTree (isEntryName maxLinks checkText steps)

namespace Path

variable {base path : Path} {front names : List String}

theorem text_ofNames_starts (starts : front <+: names) :
    ∃ tail, (ofNames names).text = (ofNames front).text ++ tail := by
  obtain ⟨rest, rfl⟩ := starts
  rw [ofNames, ofNames]
  dsimp only
  by_cases none : front = []
  · subst none
    exact ⟨"/".intercalate rest, by simp⟩
  · by_cases last : rest = []
    · subst last
      exact ⟨"", by simp⟩
    · rw [String.intercalate_append_of_ne_nil none last, String.append_assoc]
      exact ⟨_, rfl⟩

theorem text_ofNames_ne (areNames : AreNames names) (filled : names ≠ []) :
    (ofNames names).text ≠ "" := by
  intro empty
  have segments := segments_ofNames areNames
  rw [show ofNames names = ⟨""⟩ from congrArg Path.mk empty] at segments
  exact filled (segments.symm.trans (by simp [Path.segments, pieces]))

end Path

theorem FileTree.checkText_of_append {front tail : String} (checked : checkText (front ++ tail) = .ok ())
    (filled : front ≠ "") : checkText front = .ok () := by
  obtain ⟨noZero, _, short⟩ := checkText_ok_iff.mp checked
  refine checkText_ok_iff.mpr ⟨fun zero => noZero (by simp [zero]), filled, ?_⟩
  rw [String.utf8ByteSize_append] at short
  omega

/-- A base may be used where a path below it may be. -/
theorem FileTree.checkText_of_join {base path : Path} (relative : path.isAbsolute = false)
    (checked : checkText (base.join path).text = .ok ()) :
    base.text = "" ∨ checkText base.text = .ok () := by
  by_cases filled : base.text = ""
  · exact .inl filled
  · refine .inr ?_
    rw [Path.text_join relative, Path.opened] at checked
    split at checked
    · exact checkText_of_append checked filled
    · rw [String.append_assoc] at checked
      exact checkText_of_append checked filled

/-- A directory above may be used where a path below it may be. -/
theorem FileTree.checkText_above {base : Path} {front names : List String}
    (areNames : Path.AreNames names) (starts : front <+: names) (filled : front ≠ [])
    (checked : checkText (base.join (Path.ofNames names)).text = .ok ()) :
    checkText (base.join (Path.ofNames front)).text = .ok () := by
  have above : Path.AreNames front := fun name member => areNames name (starts.subset member)
  obtain ⟨tail, text⟩ := Path.text_ofNames_starts starts
  rw [Path.text_join (Path.isAbsolute_ofNames areNames), text, ← String.append_assoc,
    ← Path.text_join (Path.isAbsolute_ofNames above)] at checked
  refine checkText_of_append checked ?_
  rw [Path.text_join (Path.isAbsolute_ofNames above)]
  simp [Path.text_ofNames_ne above filled]

namespace Ground

variable {ground : Ground} {overlay : Overlay} {root path : Path} {tree : FileTree}
  {names : List String}

/-! Directories that are there -/

theorem Ready.isDirectory (ready : ground.Ready root tree []) (checked : checkText root.text = .ok ()) :
    tree.isDirectory root = true := by
  have directory := ready.directory
  rw [List.append_nil] at directory
  refine FileTree.isDirectory_iff.mpr ⟨ground.place, FileTree.place_ok_iff.mpr ⟨checked, ?_⟩, directory⟩
  rcases Path.steps_cases root with same | same
  · have walked := @Ready.walk _ _ _ _ ready true [] (.inr rfl)
    rw [List.append_nil, List.append_nil, List.append_nil, FileTree.walk_nil] at walked
    rw [same, walked]
  · have walked := @Ready.walk _ _ _ _ ready true ["."] (.inr rfl)
    rw [List.nil_append, List.append_nil, FileTree.walk_here, FileTree.walk_nil] at walked
    rw [same, walked]

theorem Ready.makeDirectory_exists (ready : ground.Ready root tree [])
    (checked : checkText root.text = .ok ()) :
    tree.makeDirectory root = .error .alreadyExists := by
  have sound := ready.stands.sound
  obtain ⟨next, entry, walked, stands⟩ := ready.stands.way.walk_existing sound
    (FileTree.startOf_directory sound root) ready.entered (maxLinks - ground.crossed.length)
  rw [Nat.sub_add_cancel ready.stands.few] at walked
  have found : ∃ place entry, tree.place false
      ⟨if FileTree.withoutSlashes root.text = "" then root.text
        else FileTree.withoutSlashes root.text⟩ = .ok place ∧ tree.entryAt? place = some entry := by
    split
    · rename_i empty
      refine ⟨tree.startOf root, .directory, FileTree.place_ok_iff.mpr ⟨checked, ?_⟩,
        FileTree.startOf_directory sound root⟩
      rcases Path.steps_cases root with same | same
      · rw [same, Path.segments_of_slashes empty, FileTree.walk_nil]
      · rw [same, Path.segments_of_slashes empty, List.nil_append, FileTree.walk_here,
          FileTree.walk_nil]
    · rename_i filled
      obtain ⟨count, text⟩ := Path.withoutSlashes_append root.text
      refine ⟨next, entry, FileTree.place_ok_iff.mpr ⟨?_, ?_⟩, stands⟩
      · rw [text] at checked
        exact FileTree.checkText_of_append checked filled
      · rw [startOf_eq (Path.isAbsolute_withoutSlashes filled),
          Path.steps_withoutSlashes, walked]
  obtain ⟨place, entry, placed, stands⟩ := found
  have free : tree.freePlace (if FileTree.withoutSlashes root.text = "" then root.text
      else FileTree.withoutSlashes root.text) = .error .alreadyExists := by
    rw [FileTree.freePlace, placed]
    change (if (tree.entryAt? place).isSome then _ else _) = _
    rw [stands]
    rfl
  rw [FileTree.makeDirectory, free]
  rfl

/-- Making the way to the root again. -/
theorem Ready.makeDirectories_again (ready : ground.Ready root tree [])
    (usable : root.text = "" ∨ checkText root.text = .ok ()) :
    runFrom (TreeM.makeDirectories root) tree = (.ok (), tree) := by
  rw [TreeM.makeDirectories, TreeM.makeDirectoriesUpTo]
  split
  · rfl
  · rename_i filled
    have checked : checkText root.text = .ok () := by
      refine usable.resolve_left fun empty => filled ?_
      rw [show root = ⟨""⟩ from congrArg Path.mk empty]
      rfl
    have found : runFrom (TreeM.makeOrFind root) tree = (.ok false, tree) := by
      rw [TreeM.runFrom_makeOrFind, ready.makeDirectory_exists checked]
      dsimp only
      rw [if_pos (ready.isDirectory checked)]
    exact runFrom_bind_of_ok found _

/-- What is seen in a directory that is ready. -/
theorem Ready.seen {dir : List String} {name : String} (ready : ground.Ready overlay.root tree dir)
    (areNames : Path.AreNames dir) (isName : isEntryName name = true)
    (checked : checkText (overlay.ofRelative (Path.ofNames (dir ++ [name]))).text = .ok ()) :
    Overlay.seen tree (overlay.ofRelative (Path.ofNames (dir ++ [name]))) =
      .ok (tree.entryAt? (ground.place ++ dir ++ [name])) := by
  have short := (Path.isEntryName_iff.mp isName).2.2.2.2
  have placed := lands_ofNames areNames isName tree ready false
    (by simp) checked
  rw [if_neg (Nat.not_lt.mpr short)] at placed
  cases stands : tree.entryAt? (ground.place ++ dir ++ [name]) with
  | some entry => exact Overlay.seen_some_iff.mpr ⟨_, placed, stands⟩
  | none =>
      have missing : tree.entryOf (overlay.ofRelative (Path.ofNames (dir ++ [name]))) =
          .error .notFound := by
        rw [FileTree.entryOf, FileTree.entryAt_of_place placed, stands]
      rw [Overlay.seen, missing]

/-- Making directories below the root again. -/
theorem Ready.ownDirectoriesFrom_again {done rest : List String} {path : Path}
    (ready : ground.Ready overlay.root tree (done ++ rest))
    (areEntries : ∀ name ∈ done ++ rest, isEntryName name = true)
    (spelled : ∀ name, Path.IsName name →
      path.join ⟨name⟩ = overlay.ofRelative (Path.ofNames (done ++ [name])))
    (checked : rest ≠ [] →
      checkText (overlay.ofRelative (Path.ofNames (done ++ rest))).text = .ok ()) :
    runFrom (Overlay.ownDirectoriesFrom path (rest.map .name)) tree = (.ok (), tree) := by
  induction rest generalizing done path with
  | nil => rfl
  | cons name rest ih =>
      have areNames : Path.AreNames (done ++ name :: rest) :=
        fun other member => Path.isName_of_isEntryName (areEntries other member)
      have front : Path.AreNames done := fun other member => areNames other (List.mem_append_left _ member)
      have isEntry : isEntryName name = true := areEntries name (by simp)
      have isName := Path.isName_of_isEntryName isEntry
      have starts : done ++ [name] <+: done ++ name :: rest :=
        (List.prefix_append_right_inj done).mpr (by simp)
      have whole : done ++ name :: rest = done ++ [name] ++ rest := by simp
      have here : ground.Ready overlay.root tree (done ++ [name]) :=
        Ready.above (whole ▸ ready)
      have seen := (Ready.above here).seen front isEntry
        (FileTree.checkText_above areNames starts (by simp) (checked (by simp)))
      have directory := here.directory
      rw [← List.append_assoc] at directory
      rw [directory] at seen
      have owned : runFrom (Overlay.ownDirectory (path.join ⟨name⟩)) tree = (.ok (), tree) := by
        have looked := Overlay.runFrom_look (path.join ⟨name⟩) tree
        rw [spelled name isName, seen] at looked
        rw [spelled name isName, Overlay.ownDirectory, runFrom_bind_of_ok looked]
        rfl
      have later : runFrom (Overlay.ownDirectoriesFrom (path.join ⟨name⟩) _) tree = _ :=
        ih (whole ▸ ready) (whole ▸ areEntries) ?_ ?_
      · rw [List.map_cons, Overlay.ownDirectoriesFrom]
        exact (runFrom_bind_of_ok owned _).trans later
      · intro other isOther
        rw [spelled name isName]
        exact Path.join_join_ofNames (fun other member => areNames other (starts.subset member)) isOther
      · intro _
        rw [← whole]
        exact checked (by simp)

/-- Making the overlay's own directories again, however the last one is spelled. -/
theorem Ready.ownDirectories_stay {dir : Path} (ready : ground.Ready overlay.root tree names)
    (below : dir.components = overlay.root.components ++ names.map .name)
    (areEntries : ∀ name ∈ names, isEntryName name = true)
    (usable : overlay.root.text = "" ∨ checkText overlay.root.text = .ok ())
    (checked : names ≠ [] → checkText (overlay.ofRelative (Path.ofNames names)).text = .ok ()) :
    runFrom (overlay.ownDirectories dir) tree = (.ok (), tree) := by
  have root : ground.Ready overlay.root tree [] := Ready.above ready
  obtain ⟨seen, found, components⟩ := relativeTo?_below below
  have made : runFrom (Overlay.fileStep overlay.root (TreeM.makeDirectories overlay.root)) tree =
      (.ok (), tree) := by
    rw [Overlay.runFrom_fileStep, root.makeDirectories_again usable]
  rw [Overlay.ownDirectories, runFrom_bind_of_ok made, found]
  dsimp only
  rw [components]
  have start : ground.Ready overlay.root tree ([] ++ names) := ready
  exact start.ownDirectoriesFrom_again areEntries (fun _ _ => rfl) checked

/-- Making the overlay's own directories again. -/
theorem Ready.ownDirectories_again (ready : ground.Ready overlay.root tree names)
    (areEntries : ∀ name ∈ names, isEntryName name = true)
    (checked : checkText (overlay.ofRelative (Path.ofNames names)).text = .ok ()) :
    runFrom (overlay.ownDirectories (overlay.ofRelative (Path.ofNames names))) tree =
      (.ok (), tree) := by
  have areNames : Path.AreNames names :=
    fun name member => Path.isName_of_isEntryName (areEntries name member)
  have usable := FileTree.checkText_of_join (Path.isAbsolute_ofNames areNames) checked
  exact ready.ownDirectories_stay (components_ofRelative areNames) areEntries usable fun _ => checked

end Ground
end AspectLoom
