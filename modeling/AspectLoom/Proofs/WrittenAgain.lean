import AspectLoom.Proofs.ReconcileAgain
import AspectLoom.Proofs.WrittenFiles
/-!
Writing files again. Where the files that were written have stayed, writing them once more succeeds and
leaves the tree as it is.
-/
namespace AspectLoom

open Actions
open FileTree (checkText isEntryName)

namespace FileTree

variable {tree : FileTree} {place : Place} {entry : Entry}

theorem put_same (filled : place ≠ []) (stands : tree.entryAt? place = some entry) :
    tree.put place entry = tree := by
  rw [entryAt?_of_ne_nil filled] at stands
  rw [put, Assoc.insert_of_find? stands]

theorem writeFile_of_place {path : Path} {bytes : ByteArray}
    (noSlash : path.text.endsWith "/" = false) (placed : tree.place true path = .ok place) :
    tree.writeFile path bytes =
      match tree.entryAt? place with
      | some .directory => .error .isDirectory
      | _ => .ok (tree.put place (.file bytes)) := by
  rw [writeFile, noSlash, placed]
  rfl

/-- A file is written as it is. -/
theorem writeFile_same {path : Path} {bytes : ByteArray} (filled : place ≠ [])
    (noSlash : path.text.endsWith "/" = false) (placed : tree.place true path = .ok place)
    (stands : tree.entryAt? place = some (.file bytes)) : tree.writeFile path bytes = .ok tree := by
  rw [writeFile_of_place noSlash placed, stands]
  exact congrArg Except.ok (put_same filled stands)

theorem noSlash_of_writeFile {path : Path} {bytes : ByteArray} {after : FileTree}
    (written : tree.writeFile path bytes = .ok after) : path.text.endsWith "/" = false := by
  rw [writeFile] at written
  split at written
  · obtain ⟨_, _, written⟩ := bind_ok written
    cases written
  · rename_i noSlash
    exact Bool.eq_false_iff.mpr noSlash

end FileTree

namespace Overlay

variable {overlay : Overlay} {tree after : FileTree} {dir path : Path} {names : List String}
  {text : String}

theorem fileStep_ok {α : Type} {action : TreeM FileError α} {value : α}
    (ran : runFrom (fileStep path action) tree = (.ok value, after)) :
    runFrom action tree = (.ok value, after) := by
  rw [runFrom_fileStep] at ran
  split at ran
  · rename_i same
    cases ran
    exact same
  · cases ran

theorem noSlash_of_replaceFile {value : Unit}
    (ran : runFrom (replaceFile path text) tree = (.ok value, after)) :
    path.text.endsWith "/" = false := by
  obtain ⟨_, _, _, ran⟩ := runFrom_bind_ok ran
  have written : ∀ {tree : FileTree}, runFrom (fileStep path
      (TreeM.apply fun tree => tree.writeFile path text.toUTF8)) tree = (.ok value, after) →
        path.text.endsWith "/" = false := by
    intro tree ran
    have applied := fileStep_ok ran
    rw [TreeM.runFrom_apply] at applied
    split at applied
    · rename_i same
      exact FileTree.noSlash_of_writeFile same
    · cases applied
  split at ran
  · obtain ⟨_, _, _, ran⟩ := runFrom_bind_ok ran
    exact written ran
  · exact written ran

/-- Directories that were made have paths that can be used. -/
theorem checkText_of_ownDirectoriesFrom {done rest : List String} {value : Unit}
    (areNames : Path.AreNames (done ++ rest))
    (spelled : ∀ name, Path.IsName name →
      path.join ⟨name⟩ = overlay.ofRelative (Path.ofNames (done ++ [name])))
    (filled : rest ≠ [])
    (ran : runFrom (ownDirectoriesFrom path (rest.map .name)) tree = (.ok value, after)) :
    checkText (overlay.ofRelative (Path.ofNames (done ++ rest))).text = .ok () := by
  induction rest generalizing done path tree with
  | nil => exact absurd rfl filled
  | cons name rest ih =>
      have isName : Path.IsName name := areNames name (by simp)
      rw [List.map_cons, ownDirectoriesFrom] at ran
      obtain ⟨_, middle, owned, ran⟩ := runFrom_bind_ok ran
      by_cases last : rest = []
      · subst last
        rw [ownDirectory] at owned
        obtain ⟨found, _, looked, _⟩ := runFrom_bind_ok owned
        rw [runFrom_look] at looked
        obtain ⟨seen, _⟩ := Prod.mk.inj looked
        rw [Component.text, spelled name isName] at seen
        refine Ground.checkText_of_seen ?_ seen
        rw [ofRelative, Path.text_join (Path.isAbsolute_ofNames areNames)]
        simp [Path.text_ofNames_ne areNames]
      · rw [List.append_cons] at areNames ⊢
        refine ih areNames (fun other isOther => ?_) last ran
        rw [Component.text, spelled name isName]
        exact Path.join_join_ofNames (fun other member =>
          areNames other (List.mem_append_left _ member)) isOther

theorem checkText_of_ownDirectories {value : Unit} (areNames : Path.AreNames names)
    (below : dir.components = overlay.root.components ++ names.map .name) (filled : names ≠ [])
    (ran : runFrom (overlay.ownDirectories dir) tree = (.ok value, after)) :
    checkText (overlay.ofRelative (Path.ofNames names)).text = .ok () := by
  obtain ⟨seen, found, components⟩ := Ground.relativeTo?_below below
  rw [ownDirectories] at ran
  obtain ⟨_, _, _, ran⟩ := runFrom_bind_ok ran
  rw [found] at ran
  dsimp only at ran
  rw [components] at ran
  rw [← List.nil_append names] at areNames ⊢
  exact checkText_of_ownDirectoriesFrom areNames (fun _ _ => rfl) filled ran

end Overlay

namespace Ground

variable {ground : Ground} {overlay : Overlay} {root path relative : Path}
  {start tree after final : FileTree} {names : List String} {name text : String}

/-- A file that holds its text is replaced by itself. -/
theorem Ready.replaceFile_stay (ready : ground.Ready root final names)
    (lands : ground.Lands root path names name) (checked : checkText path.text = .ok ())
    (noSlash : path.text.endsWith "/" = false)
    (stands : final.entryAt? (ground.place ++ names ++ [name]) = some (.file text.toUTF8)) :
    runFrom (Overlay.replaceFile path text) final = (.ok (), final) := by
  have isName := ready.stands.sound.isEntryName stands
  have short := (Path.isEntryName_iff.mp isName).2.2.2.2
  have looked := Overlay.runFrom_look path final
  rw [lands.seen ready checked stands] at looked
  have placed := lands final ready true (fun _ target => by rw [stands]; simp) checked
  rw [if_neg (Nat.not_lt.mpr short)] at placed
  have written := FileTree.writeFile_same (by simp) noSlash placed stands
  rw [Overlay.replaceFile, runFrom_bind_of_ok looked]
  change runFrom (Overlay.fileStep path _) final = _
  rw [Overlay.runFrom_fileStep, TreeM.runFrom_apply, written]

/-- A file that was written is written again to no effect. -/
theorem write_again {written : Written} {result : Option Path × Written}
    (plain : relative.isPlain = true) (lands : ∃ front name, relative.names = front ++ [name] ∧
      ground.Lands overlay.root (overlay.ofRelative relative) front name)
    (checked : checkText (overlay.ofRelative relative).text = .ok ())
    (ran : runFrom ((overlay.write relative text).run written) tree = (.ok result, after))
    (ready : ground.Ready overlay.root final relative.names.dropLast)
    (stands : final.entryAt? (ground.place ++ relative.names) = some (.file text.toUTF8)) :
    runFrom ((overlay.write relative text).run written) final = (.ok result, final) := by
  rw [run_write] at ran ⊢
  split at ran
  · rename_i again
    cases ran
    rw [if_pos again]
    rfl
  rename_i new
  rw [if_neg new]
  obtain ⟨_, _, owned, ran⟩ := runFrom_bind_ok ran
  obtain ⟨_, _, replaced, ran⟩ := runFrom_bind_ok ran
  cases ran
  obtain ⟨front, name, names, lands⟩ := lands
  rw [names, List.dropLast_concat] at ready
  rw [names, ← List.append_assoc] at stands
  have areNames := relative.areNames_names
  have components : (overlay.root.join relative).components = _ := Path.components_join_plain plain
  rw [names, List.map_append, List.map_singleton, ← List.append_assoc] at components
  obtain ⟨parent, found⟩ := Path.parent?_isSome components
  have above := (Path.parent?_isParent found).components
  rw [components, List.dropLast_concat] at above
  have frontNames : Path.AreNames front := fun other member =>
    areNames other (by rw [names]; exact List.mem_append_left _ member)
  have owns : ownParent overlay relative = overlay.ownDirectories parent := by
    rw [ownParent, Overlay.ofRelative, found]
  rw [owns] at owned ⊢
  have usable := FileTree.checkText_of_join (Path.segments_of_isPlain plain).1 checked
  have entries : ∀ name ∈ front, isEntryName name = true := fun other member =>
    ready.stands.sound.names ready.directory other (List.mem_append_right _ member)
  have ownedAgain := ready.ownDirectories_stay above entries usable fun filled =>
    Overlay.checkText_of_ownDirectories frontNames above filled owned
  have replacedAgain := ready.replaceFile_stay lands checked
    (Overlay.noSlash_of_replaceFile replaced) stands
  rw [runFrom_bind_of_ok ownedAgain, runFrom_bind_of_ok replacedAgain]
  rfl

/-- Writing all files again changes nothing where they have stayed. -/
theorem writeAll_again {files more : List (Path × String)} {written : Written} {result : Unit × Written}
    (stands : ground.Stands overlay.root start) (keeps : ground.Keeps overlay.root after final)
    (plain : ∀ file ∈ more, file.1.isPlain = true)
    (holds : ground.Holds overlay start files written tree)
    (ran : runFrom ((overlay.writeAll more).run written) tree = (.ok result, after)) :
    runFrom ((overlay.writeAll more).run written) final = (.ok result, final) := by
  induction more generalizing files written tree with
  | nil =>
      cases ran
      rfl
  | cons file more ih =>
      obtain ⟨relative, text⟩ := file
      obtain ⟨first, others⟩ := List.forall_mem_cons.mp plain
      rw [Overlay.run_writeAll_cons] at ran ⊢
      obtain ⟨next, middle, wrote, ran⟩ := runFrom_bind_ok ran
      have writes := (write_ends (stands.later holds.spares) first text _).of_ok wrote
      have onward : ground.Holds overlay start (files ++ [(relative, text)]) next.2 middle := by
        rcases writes with ⟨again, rfl, rfl⟩ | ⟨new, rfl, takes⟩
        · exact holds.again again
        · exact holds.write first new takes
      have ends := writeAll_holds stands onward others ran
      have later := ih others onward ran
      rcases writes with ⟨again, rfl, rfl⟩ | ⟨new, rfl, takes⟩
      · rw [run_write, if_pos again]
        exact later
      · have member : relative ∈ result.2.paths := (Overlay.writeAll_ok ran).1 (by simp)
        obtain ⟨given, found, stood⟩ := ends.first relative member
        have own : given = text := by
          have isFirst : ((relative, text) :: more).find? (fun file => file.1 == relative) =
              some (relative, text) := List.find?_cons_of_pos (Path.beq_iff.mpr rfl)
          rw [List.append_assoc, List.find?_append, holds.find?_new first new, Option.none_or,
            List.singleton_append, isFirst] at found
          exact (congrArg Prod.snd (Option.some.inj found)).symm
        rw [own] at stood
        have again := write_again first (ends.lands relative member) (ends.checked relative member) wrote
          ((ends.ready relative member).later keeps.spares) (keeps.files _ _ stood)
        exact (runFrom_bind_of_ok again _).trans later

end Ground
end AspectLoom
