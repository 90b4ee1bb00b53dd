import AspectLoom.Proofs.OwnDirectories
/-!
Files of an overlay. A file is written in a directory of the overlay's own and in the stead of a link,
so writing spares everything off the overlay's ground; where it fails half-way it has not harmed more.
-/
namespace AspectLoom

open Actions

namespace Ground

variable {ground : Ground} {overlay : Overlay} {path dir : Path} {tree after : FileTree}
  {place : Place} {names : List String}

/-- A path below the root, seen from there. -/
theorem relativeTo?_below (areNames : dir.components = overlay.root.components ++ names.map .name) :
    ∃ seen, overlay.root.relativeTo? dir = some seen ∧ seen.components = names.map .name := by
  obtain ⟨seen, below⟩ := Path.relativeTo?_isSome
    (areNames ▸ List.prefix_append _ _)
  have split := Path.components_relativeTo? below
  rw [areNames] at split
  exact ⟨seen, below, (List.append_cancel_left split).symm⟩

/-- Making the overlay's own directories from the root down. -/
theorem ownDirectories_ends (stands : ground.Stands overlay.root tree)
    (below : dir.components = overlay.root.components ++ names.map .name)
    (areNames : Path.AreNames names) :
    Ends (fun _ after => ground.Owns overlay.root names tree after)
      (fun after => ground.Spares tree after) (overlay.ownDirectories dir) tree := by
  rw [Overlay.ownDirectories]
  refine ends_bind (Overlay.fileStep_ends ((makeDirectories_ends stands).imp ?_ fun _ => id))
  intro _ middle owns
  obtain ⟨seen, found, components⟩ := relativeTo?_below below
  rw [found]
  dsimp only
  rw [components]
  refine (ownDirectoriesFrom_ends owns.ready ⟨rfl, (List.append_nil _).symm⟩ areNames).imp ?_
    fun _ => owns.spares.trans
  exact fun _ last more => owns.trans List.nil_prefix more

/-- A path above the root has no directory of the overlay's own. -/
theorem ownDirectories_above (stands : ground.Stands overlay.root tree)
    (leads : overlay.root.Leads dir) (above : ¬ overlay.root.components <+: dir.components) :
    Ends (fun _ after => ground.Spares tree after) (fun after => ground.Spares tree after)
      (overlay.ownDirectories dir) tree := by
  rw [Overlay.ownDirectories]
  refine ends_bind (Overlay.fileStep_ends ((makeDirectories_ends stands).imp ?_ fun _ => id))
  intro _ middle owns
  have none : overlay.root.relativeTo? dir = none := by
    rw [Path.relativeTo?, if_neg]
    rwa [List.isPrefixOf_iff_prefix]
  rw [none]
  refine Overlay.fileStep_ends ((makeDirectoriesUpTo_ends owns.ready.stands leads _).imp ?_
    fun _ => owns.spares.trans)
  exact fun _ last grows => owns.spares.trans grows.1.spares

/-! Replacing a file -/

/-- Nothing is written where a path leads to directories only. -/
theorem replaceFile_fails (sound : tree.Sound)
    (ends : path.SpelledAsDirectory) (text : String) :
    Ends (fun _ _ => False) (fun after => after = tree) (Overlay.replaceFile path text) tree := by
  rw [Overlay.replaceFile]
  refine ends_bind ((Overlay.look_ends _ tree).imp ?_ fun _ => id)
  rintro found tree ⟨rfl, seen⟩
  have written : Ends (fun _ _ => False) (fun after => after = tree)
      (Overlay.fileStep path (TreeM.apply fun tree => tree.writeFile path text.toUTF8)) tree := by
    refine Overlay.fileStep_ends ((Overlay.apply_ends _ tree).imp ?_ fun _ => id)
    intro _ after written
    obtain ⟨place, placed, noDirectory, _⟩ := FileTree.writeFile_ok written
    exact noDirectory (FileTree.place_directory sound ends placed)
  split
  · rw [Overlay.seen_some_iff] at seen
    obtain ⟨place, placed, link⟩ := seen
    rw [FileTree.place_directory sound ends placed] at link
    cases link
  · exact ends_bind (ends_pure written)

/-- A file is where it was written, and nothing else has come or gone. -/
structure Writes (ground : Ground) (root path : Path) (names : List String) (bytes : ByteArray)
    (before after : FileTree) : Prop where
  checked : FileTree.checkText path.text = .ok ()
  spares : ground.Spares before after
  ready : ground.Ready root after names.dropLast
  file : after.entryAt? (ground.place ++ names) = some (.file bytes)
  others : ∀ place, place ≠ ground.place ++ names → after.entryAt? place = before.entryAt? place

/-- A path that leads to a name in a directory once that is ready. A link there is followed on demand. -/
def Lands (ground : Ground) (root path : Path) (names : List String) (name : String) : Prop :=
  ∀ tree : FileTree, ground.Ready root tree names → ∀ follow : Bool,
    (follow = true → ∀ target, tree.entryAt? (ground.place ++ names ++ [name]) ≠ some (.link target)) →
      FileTree.checkText path.text = .ok () →
        tree.place follow path =
          if name.utf8ByteSize > FileTree.maxNameSize then .error .nameTooLong
          else .ok (ground.place ++ names ++ [name])

section
variable {root : Path} {name : String}

theorem Lands.place_eq (lands : ground.Lands root path names name)
    (ready : ground.Ready root tree names) {follow : Bool}
    (stays : follow = true → ∀ target,
      tree.entryAt? (ground.place ++ names ++ [name]) ≠ some (.link target))
    (placed : tree.place follow path = .ok place) : place = ground.place ++ names ++ [name] := by
  rw [lands tree ready follow stays (FileTree.place_ok_iff.mp placed).1] at placed
  split at placed
  · cases placed
  · exact (Except.ok.inj placed).symm

/-- What stands at the name is seen. -/
theorem Lands.seen (lands : ground.Lands root path names name)
    (ready : ground.Ready root tree names) (checked : FileTree.checkText path.text = .ok ())
    {entry : Entry} (stands : tree.entryAt? (ground.place ++ names ++ [name]) = some entry) :
    Overlay.seen tree path = .ok (some entry) := by
  have isName := ready.stands.sound.isEntryName stands
  have short := (Path.isEntryName_iff.mp isName).2.2.2.2
  refine Overlay.seen_some_iff.mpr ⟨_, ?_, stands⟩
  rw [lands tree ready false (by simp) checked, if_neg (Nat.not_lt.mpr short)]

/-- Writing at a name where no link stands. -/
theorem writeFile_ends {first : FileTree} (ready : ground.Ready root first names)
    (lands : ground.Lands root path names name) (text : String) (spares : ground.Spares tree first)
    (noLink : FileTree.checkText path.text = .ok () → ∀ target,
      first.entryAt? (ground.place ++ names ++ [name]) ≠ some (.link target))
    (others : ∀ place, place ≠ ground.place ++ names ++ [name] →
      first.entryAt? place = tree.entryAt? place) :
    Ends (fun _ after => ground.Writes root path (names ++ [name]) text.toUTF8 tree after)
      (fun after => ground.Spares tree after)
      (Overlay.fileStep path (TreeM.apply fun tree => tree.writeFile path text.toUTF8)) first := by
  refine Overlay.fileStep_ends ((Overlay.apply_ends _ first).imp ?_ fun _ same => same ▸ spares)
  intro _ after written
  obtain ⟨place, placed, noDirectory, rfl⟩ := FileTree.writeFile_ok written
  have fits := FileTree.place_fits ready.stands.sound placed
  have here := lands.place_eq ready
    (fun _ => noLink (FileTree.place_ok_iff.mp placed).1) placed
  subst here
  have root : ground.Ready root first [] := Ready.above ready
  have more : ground.Spares first (first.put _ (.file text.toUTF8)) :=
    root.spares_put fits noDirectory (below_starts ground names name)
  have put : ∀ other, (first.put _ (.file text.toUTF8)).entryAt? other = _ :=
    FileTree.entryAt?_put (FileTree.ne_nil_of_ne_directory noDirectory)
  refine ⟨(FileTree.place_ok_iff.mp placed).1, spares.trans more, ?_, ?_, ?_⟩
  · rw [List.dropLast_concat]
    exact ready.later more
  · rw [put, if_pos (List.append_assoc ..)]
  · intro other different
    rw [← List.append_assoc] at different
    rw [put, if_neg (Ne.symm different), others other different]

theorem replaceFile_ends (ready : ground.Ready root tree names)
    (lands : ground.Lands root path names name) (text : String) :
    Ends (fun _ after => ground.Writes root path (names ++ [name]) text.toUTF8 tree after)
      (fun after => ground.Spares tree after) (Overlay.replaceFile path text) tree := by
  rw [Overlay.replaceFile]
  refine ends_bind ((Overlay.look_ends _ tree).imp ?_ fun _ same => same ▸ Spares.refl _ _)
  rintro found tree ⟨rfl, seen⟩
  split
  · rename_i target
    rw [Overlay.seen_some_iff] at seen
    obtain ⟨place, placed, link⟩ := seen
    rw [Overlay.removeFile]
    refine ends_bind (Overlay.fileStep_ends ((Overlay.apply_ends _ tree).imp ?_
      fun _ same => same ▸ Spares.refl _ _))
    intro _ first removed
    obtain ⟨place, placed, noDirectory, rfl⟩ := FileTree.removeFile_ok removed
    have here := lands.place_eq ready (by simp) placed
    subst here
    have spares := (Ready.above ready).spares_prune noDirectory
      (below_starts ground names name)
    have pruned := FileTree.entryAt?_prune ready.stands.sound noDirectory
    refine writeFile_ends (ready.later spares) lands text spares ?_ ?_
    · rw [pruned, if_pos rfl]
      simp
    · intro other different
      rw [pruned, if_neg (Ne.symm different)]
  · rename_i noLink
    refine ends_bind (ends_pure (writeFile_ends ready lands text (Spares.refl _ _) ?_ fun _ _ => rfl))
    intro checked target link
    rw [lands.seen ready checked link] at seen
    exact noLink target (Except.ok.inj seen).symm

end

/-! Writing -/

theorem lands_join {relative : Path} {front : List String} {name : String}
    (isRelative : relative.isAbsolute = false) (filled : relative.text ≠ "")
    (noSlash : relative.text.endsWith "/" = false) (segments : relative.segments = front ++ [name])
    (isName : Path.IsName name) :
    ground.Lands overlay.root (overlay.ofRelative relative) (front.filter (· ≠ ".")) name := by
  intro tree ready follow stays checked
  have absolute : (overlay.root.join relative).isAbsolute = _ := Path.isAbsolute_join isRelative
  have noEnd : (overlay.root.join relative).text.endsWith "/" = _ :=
    Path.endsWith_join isRelative filled
  have dots : (overlay.root.segments ++ front).filter (· ≠ ".") =
      (overlay.root.segments ++ front.filter (· ≠ ".")).filter (· ≠ ".") := by
    simp [List.filter_append, List.filter_filter]
  rw [Overlay.ofRelative] at checked ⊢
  rw [FileTree.place, checked]
  change tree.walk follow FileTree.maxLinks (tree.startOf (overlay.root.join relative)) _ = _
  rw [startOf_eq absolute, Path.steps_of_not_endsWith (noEnd.trans noSlash),
    Path.segments_join isRelative, segments, ← List.append_assoc,
    FileTree.walk_congr_dots dots (List.cons_ne_nil _ _), List.append_assoc,
    ready.walk (.inl (List.cons_ne_nil _ _)), FileTree.walk_last isName.2.2 stays]

/-- What a writing does: directories come, then the file. -/
structure Takes (ground : Ground) (root relative : Path) (text : String)
    (before after : FileTree) : Prop where
  lands : ∃ front name, relative.names = front ++ [name] ∧
    ground.Lands root (root.join relative) front name
  steps : ∃ middle, ground.Owns root relative.names.dropLast before middle ∧
    ground.Writes root (root.join relative) relative.names text.toUTF8 middle after

theorem Takes.spares {root relative : Path} {text : String}
    (takes : ground.Takes root relative text tree after) : ground.Spares tree after := by
  obtain ⟨middle, owns, writes⟩ := takes.steps
  exact owns.spares.trans writes.spares

/-- The directories for a file. -/
def ownParent (overlay : Overlay) (relative : Path) : TreeM OverlayError Unit :=
  match (overlay.ofRelative relative).parent? with
  | some parent => overlay.ownDirectories parent
  | none => pure ()

theorem run_write (overlay : Overlay) (relative : Path) (text : String) (written : Written) :
    (overlay.write relative text).run written =
      if written.contains relative then pure (none, written) else
        ownParent overlay relative >>= fun _ =>
          Overlay.replaceFile (overlay.ofRelative relative) text >>= fun _ =>
            pure (some (overlay.ofRelative relative), ⟨written.paths ++ [relative]⟩) := by
  rw [Overlay.write, ownParent]
  simp only [StateT.run_bind, StateT.run_get, pure_bind]
  split
  · rfl
  · cases (overlay.ofRelative relative).parent? <;> simp

/-- The directories for a path without names are those on the way to the root. -/
theorem ownParent_root {relative : Path} (stands : ground.Stands overlay.root tree)
    (plain : relative.isPlain = true) (none : relative.names = []) :
    Ends (fun _ after => ground.Spares tree after) (fun after => ground.Spares tree after)
      (ownParent overlay relative) tree := by
  have components : (overlay.root.join relative).components = _ := Path.components_join_plain plain
  obtain ⟨isRelative, head, names⟩ := Path.segments_of_isPlain plain
  have segments : relative.segments = [] := by
    rw [none, List.filter_eq_nil_iff] at names
    cases split : relative.segments with
    | nil => rfl
    | cons first others =>
        have dot : first = "." := by simpa using names first (by simp [split])
        simp [split, dot] at head
  rw [none, List.map_nil, List.append_nil] at components
  rw [ownParent]
  split
  · rename_i parent found
    have isParent := Path.parent?_isParent found
    refine ownDirectories_above stands ⟨?_, ?_⟩ ?_
    · exact isParent.absolute.trans (Path.isAbsolute_join isRelative)
    · have short := isParent.segments
      rwa [Overlay.ofRelative, Path.segments_join isRelative, segments, List.append_nil] at short
    · intro starts
      rw [isParent.components, Overlay.ofRelative, components] at starts
      have short := starts.length_le
      rw [List.length_dropLast] at short
      have empty : overlay.root.components = [] := List.eq_nil_of_length_eq_zero (by omega)
      rw [Path.parent?, Overlay.ofRelative, components, empty] at found
      cases found
  · exact ends_pure (Spares.refl _ _)

theorem ownParent_ends {relative : Path} (stands : ground.Stands overlay.root tree)
    (plain : relative.isPlain = true) (filled : relative.names ≠ []) :
    Ends (fun _ after => ground.Owns overlay.root relative.names.dropLast tree after)
      (fun after => ground.Spares tree after) (ownParent overlay relative) tree := by
  have components : (overlay.root.join relative).components = _ := Path.components_join_plain plain
  have areNames := relative.areNames_names
  obtain ⟨front, name, names⟩ := (List.eq_nil_or_concat relative.names).resolve_left filled
  rw [List.concat_eq_append] at names
  rw [names] at components areNames ⊢
  rw [List.map_append, List.map_singleton, ← List.append_assoc] at components
  obtain ⟨parent, found⟩ := Path.parent?_isSome components
  have above := (Path.parent?_isParent found).components
  rw [components, List.dropLast_concat] at above
  rw [ownParent, Overlay.ofRelative, found, List.dropLast_concat]
  exact ownDirectories_ends stands above fun other member =>
    areNames other (List.mem_append_left _ member)

theorem write_ends {relative : Path} (stands : ground.Stands overlay.root tree)
    (plain : relative.isPlain = true) (text : String) (written : Written) :
    Ends (fun result after =>
        written.contains relative = true ∧ result = (none, written) ∧ after = tree ∨
          written.contains relative = false ∧
            result = (some (overlay.ofRelative relative), ⟨written.paths ++ [relative]⟩) ∧
              ground.Takes overlay.root relative text tree after)
      (fun after => ground.Spares tree after) ((overlay.write relative text).run written) tree := by
  rw [run_write]
  split
  · rename_i again
    exact ends_pure (.inl ⟨again, rfl, rfl⟩)
  rename_i first
  rw [Bool.not_eq_true] at first
  rcases Path.isPlain_cases plain with spelled | ⟨front, name, filled, noSlash, segments, isName, names⟩
  · have isRelative := (Path.segments_of_isPlain plain).1
    have made : Ends (fun _ after => ground.Spares tree after) (fun after => ground.Spares tree after)
        (ownParent overlay relative) tree := by
      by_cases none : relative.names = []
      · exact ownParent_root stands plain none
      · exact (ownParent_ends stands plain none).imp (fun _ _ owns => owns.spares) fun _ => id
    refine ends_bind (made.imp ?_ fun _ => id)
    intro _ middle spares
    refine ends_bind ((replaceFile_fails (stands.later spares).sound (spelled.join isRelative)
      text).imp (fun _ _ never => never.elim) ?_)
    rintro after rfl
    exact spares
  · have owned := ownParent_ends stands plain (by simp [names])
    rw [names, List.dropLast_concat] at owned
    have lands : ground.Lands overlay.root (overlay.ofRelative relative) _ name :=
      lands_join (Path.segments_of_isPlain plain).1 filled noSlash segments isName
    refine ends_bind (owned.imp ?_ fun _ => id)
    intro _ middle owns
    refine ends_bind ((replaceFile_ends owns.ready lands text).imp ?_ fun _ => owns.spares.trans)
    intro _ after writes
    refine ends_pure (.inr ⟨first, rfl, ⟨_, name, names, lands⟩, middle, ?_, ?_⟩)
    · rw [names, List.dropLast_concat]
      exact owns
    · rw [names]
      exact writes

end Ground
end AspectLoom
